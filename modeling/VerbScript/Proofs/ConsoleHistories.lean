import VerbScript.Console.Basic
import VerbScript.Proofs.SessionWorlds

/-!
# Histories of a console

A console is driven by lines, and between two lines other programs may change the files. Whatever
the lines are, in whatever order, and however they fail, the alias `Me` keeps naming an object that
exists, and this is the object of the session. And as long as no world is loaded from a file, there
is no verb that does not compile.

* `Console.Turn` — the ways in which a line can change the session; there are no others
  (`Console.handle_turn`). The properties of a session are kept by each of them.
* `Console.Event`, `Console.after` — histories.
* `Console.Sound`, `Console.Compiled` — what a user relies on between two lines.
* `Console.after_sound` — it holds after every history.
-/

namespace VerbScript

namespace Session

/-- A source text is rejected, or run as a script. Being rejected leaves the session as it is. -/
theorem runSource_cases (s : Session) (source : String) :
    (∃ e, s.runSource source = (s, .error (.rejected e))) ∨
      ∃ script, s.runSource source = s.runScript script := by
  unfold runSource
  cases Script.compile source with
  | ok script => exact .inr ⟨script, rfl⟩
  | error e => exact .inl ⟨e, rfl⟩

/-- So is the line of a call. It is rejected if it does not read as a call, though it might read as
something else. -/
theorem callLine_cases (s : Session) (line : String) :
    (∃ e, s.callLine line = (s, .error (.rejected e))) ∨
      ∃ script, s.callLine line = s.runScript script := by
  unfold callLine
  cases readCall line with
  | ok c => exact .inr ⟨callScript c, rfl⟩
  | error e => exact .inl ⟨e, rfl⟩

/-- A file is never refused with a fault of a script. Writing to the disk fails in its own ways. -/
theorem save_ne_raised (s : Session) (disk : Disk) (path : String) (fault : Fault) :
    s.save disk path ≠ .error (.raised fault) := by
  unfold save Store.save
  split <;> exact nofun

/-- Neither is loading. The file may be missing or not be a store, and both are failures of their
own. -/
theorem load_ne_raised (s : Session) (disk : Disk) (path : String) (fault : Fault) :
    s.load disk path ≠ .error (.raised fault) := by
  have hstore : Store.load disk path ≠ .error (.raised fault) := by
    unfold Store.load Store.ofBytes
    split
    · split <;> exact nofun
    · exact nofun
  unfold load
  cases hload : Store.load disk path with
  | ok store => exact nofun
  | error failure =>
    rintro ⟨⟩
    exact hstore hload

end Session

namespace Console

variable {c : Console} {line : String}

/-! ### One line -/

/-- Why a line is refused: its source does not compile, the object of the session cannot be listed
or given a verb, or a file cannot be written or read. -/
inductive Refusal (c : Console) : Failure → Prop where
  | source (e : SyntaxError) : Refusal c (.rejected e)
  | props {failure : Failure} (failed : c.session.props = .error failure) : Refusal c failure
  | verb {name : String} {failure : Failure}
      (failed : c.session.defineVerb name c.source = .error failure) : Refusal c failure
  | save {path : String} {failure : Failure}
      (failed : c.session.save c.disk path = .error failure) : Refusal c failure
  | load {path : String} {failure : Failure}
      (failed : c.session.load c.disk path = .error failure) : Refusal c failure

/-- **What a line can do to the session**, and what it leads to then. The commands are many, but of
the session there is not more to say than these cases do. -/
inductive Turn (c : Console) (line : String) : Session → Except Failure ConsoleOutcome → Prop where
  -- the session stays as it is, and what is shown is not the failure of a script
  | shown {outcome : ConsoleOutcome} (calm : ∀ said failure, outcome ≠ .failed said failure) :
      Turn c line c.session (.ok outcome)
  | refused {failure : Failure} (reason : c.Refusal failure) :
      Turn c line c.session (.error failure)
  /-- A script is rejected; what has been said before is taken all the same. -/
  | rejected (e : SyntaxError) :
      Turn c line c.session.takeOutput.2 (.ok (.failed c.session.takeOutput.1 (.rejected e)))
  /-- A script is run, and what has been said is taken. -/
  | ran (script : Script) :
      Turn c line (c.session.runScript script).1.takeOutput.2
        (.ok (c.finish (c.session.runScript script)).2)
  -- the other lines change the session without running a script
  | traced (enabled : Bool) (text : String) :
      Turn c line (c.session.setTrace enabled) (.ok (message text))
  | defined {name : String} {s : Session} (done : c.session.defineVerb name c.source = .ok s)
      (text : String) : Turn c line s (.ok (message text))
  | loaded {path : String} {s : Session}
      (asked : Command.ofLine? line.toList = some (.load path))
      (done : c.session.load c.disk path = .ok s) (text : String) :
      Turn c line s (.ok (message text))

/-- A line that only leads to a message changes nothing. -/
theorem Turn.message (c : Console) (line text : String) :
    c.Turn line c.session (.ok (message text)) := .shown fun _ _ => nofun

/-- Neither does one that lists something, be there something to list or not. -/
theorem Turn.listed (c : Console) (line : String) (lines : List String) (remark : String) :
    c.Turn line c.session (.ok (listed lines remark)) := by
  refine .shown fun said failure => ?_
  unfold Console.listed
  split <;> exact nofun

/-- When a script has ended, what it has said is taken, however it has ended. So nothing of it is
said again by the next one. -/
theorem finish_session (c : Console) (result : Session × Except Failure Value) :
    (c.finish result).1.session = result.1.takeOutput.2 := by
  unfold finish
  dsimp only
  split <;> rfl

/-- What a script leads to does not depend on the lines that are being collected. They have become
its source before, or they belong to the next one. -/
theorem finish_buffer (c : Console) (buffer : List String)
    (result : Session × Except Failure Value) :
    ({ c with buffer }.finish result).2 = (c.finish result).2 := by
  unfold finish
  dsimp only
  split <;> rfl

/-- A source that is rejected or run as a script. What the script has said is taken from the session
to be shown, and the buffer may be any. -/
theorem turn_of_script {result : Session × Except Failure Value}
    (h : (∃ e, result = (c.session, .error (.rejected e))) ∨
      ∃ script, result = c.session.runScript script) (buffer : List String) :
    c.Turn line ({ c with buffer }.finish result).1.session
      (.ok ({ c with buffer }.finish result).2) := by
  rw [finish_session, finish_buffer]
  rcases h with ⟨e, rfl⟩ | ⟨script, rfl⟩
  · exact .rejected e
  · exact .ran script

/-- **Every line does one of these things.** The cases are the commands; a line that is none of them
is collected. -/
theorem handle_turn (c : Console) (line : String) :
    c.Turn line (c.handle line).1.session (c.handle line).2 := by
  unfold handle
  cases hline : Command.ofLine? line.toList with
  | none => exact .shown fun _ _ => nofun
  | some asked =>
    cases asked with
    | run => exact turn_of_script (c.session.runSource_cases c.source) []
    | call argument => exact turn_of_script (c.session.callLine_cases argument) c.buffer
    -- a source is shown if it compiles
    | ast =>
      dsimp only [command]
      split
      next => exact .shown fun _ _ => nofun
      next e _ => exact .refused (.source e)
    -- the lines collected become a verb, if they compile
    | verb name =>
      dsimp only [command]
      split
      next s hdefine => exact .defined hdefine _
      next failure hdefine => exact .refused (.verb hdefine)
    | verbs => exact .listed c line _ _
    | props =>
      dsimp only [command]
      cases hprops : c.session.props with
      | ok props => exact .listed c line _ _
      | error failure => exact .refused (.props hprops)
    | clear => exact .message c line _
    | trace mode =>
      cases mode with
      | on => exact .traced true _
      | off => exact .traced false _
      | recent => exact .shown fun _ _ => nofun
    | save path =>
      dsimp only [command]
      split
      next => exact .message c line _
      next failure hsave => exact .refused (.save hsave)
    | load path =>
      dsimp only [command]
      split
      next s hload => exact .loaded hline hload _
      next failure hload => exact .refused (.load hload)
    | help => exact .shown fun _ _ => nofun
    | quit => exact .shown fun _ _ => nofun
    | usage text => exact .message c line _
    | unknown name => exact .message c line _

variable {s : Session} {outcome : Except Failure ConsoleOutcome}

/-- **A session stays anchored**, with the settings it has. Each case has its lemma about sessions:
a script, a verb that is defined, and a world that is loaded. -/
theorem Turn.anchored (h : c.Turn line s outcome) (hc : c.session.Anchored) :
    s.Anchored ∧ s.settings = c.session.settings := by
  cases h with
  | shown => exact ⟨hc, rfl⟩
  | refused => exact ⟨hc, rfl⟩
  -- what has been said is no part of the world
  | rejected => exact ⟨⟨hc.named, hc.exist⟩, rfl⟩
  -- a script changes properties only, so the object and the alias are where they were
  | ran script => exact ⟨hc.of_sameBut rfl (c.session.runScript_sameBut script), rfl⟩
  | traced => exact ⟨⟨hc.named, hc.exist⟩, rfl⟩
  | defined done => exact ⟨(hc.of_defineVerb done).1, (hc.of_defineVerb done).2.1⟩
  | loaded asked done => exact Session.load_anchored done

/-- **Verbs stay such that they compile**, if no world is loaded. A load that fails is no load, so
it is asked of the outcome and not of the line. -/
theorem Turn.verbsCompile (h : c.Turn line s outcome) (hc : c.session.Anchored)
    (hverbs : c.session.world.VerbsCompile)
    (hunloaded : ∀ path, Command.ofLine? line.toList = some (.load path) →
      ∃ failure, outcome = .error failure) : s.world.VerbsCompile := by
  cases h with
  | shown => exact hverbs
  | refused => exact hverbs
  | rejected => exact hverbs
  | ran script => exact hverbs.of_sameBut (c.session.runScript_sameBut script)
  | traced => exact hverbs
  | defined done => exact (hc.of_defineVerb done).2.2 hverbs
  | loaded asked done =>
    -- this line would have loaded a world
    obtain ⟨failure, hfailure⟩ := hunloaded _ asked
    cases hfailure

/-- **No line is refused with a fault**: what a script does is reported as the outcome of the
script, and the object of the session exists. -/
theorem Turn.ne_raised (h : c.Turn line s outcome) (hc : c.session.Anchored) (fault : Fault) :
    outcome ≠ .error (.raised fault) := by
  rintro rfl
  cases h with
  | refused reason =>
    -- listing and defining need the object, and files are refused with failures of their own
    cases reason with
    | props failed =>
      obtain ⟨o, -, hprops, -⟩ := hc.exists_player
      rw [hprops] at failed
      cases failed
    -- defining a verb fails only with a source that does not compile
    | @verb name _ failed =>
      rcases hc.defineVerb_eq name c.source with ⟨e, -, heq⟩ | ⟨script, o, -, -, heq⟩
      · rw [heq] at failed
        cases failed
      · rw [heq] at failed
        cases failed
    | save failed => exact c.session.save_ne_raised _ _ fault failed
    | load failed => exact c.session.load_ne_raised _ _ fault failed

/-- **A script that failed** was rejected, or it was run and its run failed. So what is known of
runs holds of all that a console reports as the failure of a script. -/
theorem Turn.failed {said : List String} {failure : Failure}
    (h : c.Turn line s (.ok (.failed said failure))) :
    (∃ e, failure = .rejected e) ∨ ∃ script, (c.session.runScript script).2 = .error failure := by
  -- the outcome of a script is not given by its form, so the equation is kept apart
  generalize houtcome : Except.ok (ConsoleOutcome.failed said failure) = outcome at h
  cases h with
  | shown calm => exact absurd (Except.ok.inj houtcome).symm (calm said failure)
  | refused => cases houtcome
  | rejected e =>
    cases houtcome
    exact .inl ⟨e, rfl⟩
  | ran script =>
    -- of the ways in which a run can end, only a failure leads to this outcome
    have hfinish := Except.ok.inj houtcome
    unfold finish at hfinish
    dsimp only at hfinish
    split at hfinish
    · cases hfinish
    · cases hfinish
    next hresult =>
      cases hfinish
      exact .inr ⟨script, hresult⟩
  | traced => cases houtcome
  | defined => cases houtcome
  | loaded => cases houtcome

/-! ### Histories -/

/-- What happens to a console: a line is typed, or the files change without it. Files are all that a
console reads from outside. -/
inductive Event where
  | typed (line : String)
  /-- Another program changes the files. -/
  | files (disk : Disk)

/-- A console after an event. What the line leads to is shown and dropped. -/
def meet (c : Console) : Event → Console
  | .typed line => (c.handle line).1
  | .files disk => { c with disk }

/-- A console after a history, which begins with the first event. -/
def after (c : Console) (history : List Event) : Console := history.foldl meet c

/-- No line of a history has loaded a world. It may have tried to; then the world of the session is
the old one. -/
def Unloaded (c : Console) (history : List Event) : Prop :=
  ∀ before line rest, history = before ++ .typed line :: rest →
    ∀ path, Command.ofLine? line.toList = some (.load path) →
      ∃ failure, ((c.after before).handle line).2 = .error failure

/-- Without lines no world has been loaded. -/
theorem unloaded_nil (c : Console) : c.Unloaded [] := by
  intro before line rest heq
  exact absurd heq.symm (List.append_ne_nil_of_right_ne_nil _ (List.cons_ne_nil _ _))

/-- No world is loaded by the first event, and none by those behind it. This is the step of an
induction over a history, whose later events meet the console that the first one has left. -/
theorem unloaded_cons {e : Event} {rest : List Event} :
    c.Unloaded (e :: rest) ↔
      (∀ line path, e = .typed line → Command.ofLine? line.toList = some (.load path) →
        ∃ failure, (c.handle line).2 = .error failure) ∧ (c.meet e).Unloaded rest := by
  constructor
  · intro h
    refine ⟨?_, fun before line rest' heq => ?_⟩
    · rintro line path rfl hline
      exact h [] line rest rfl path hline
    · exact h (e :: before) line rest' (by rw [heq, List.cons_append])
  · rintro ⟨hfirst, hrest⟩ before line rest' heq path hline
    cases before with
    | nil =>
      obtain ⟨rfl, rfl⟩ := List.cons.inj heq
      exact hfirst line path rfl hline
    | cons e' before =>
      obtain ⟨rfl, rfl⟩ := List.cons.inj heq
      exact hrest before line rest' rfl path hline

/-- **After every history the session is anchored**, with the settings that it started with. The
induction is on the history, and the lemma for a line is `Turn.anchored`. -/
theorem after_anchored (h : c.session.Anchored) (history : List Event) :
    (c.after history).session.Anchored ∧
      (c.after history).session.settings = c.session.settings := by
  induction history generalizing c with
  | nil => exact ⟨h, rfl⟩
  | cons e rest ih =>
    cases e with
    | typed line =>
      obtain ⟨hanchored, hsettings⟩ := (c.handle_turn line).anchored h
      obtain ⟨hlast, hkept⟩ := ih hanchored
      exact ⟨hlast, hkept.trans hsettings⟩
    | files disk =>
      -- the files are no part of the session
      exact ih (c := { c with disk }) h

/-- **After a history that loads no world all verbs compile**, if they did before. The induction is
on the history, and the lemma for a line is `Turn.verbsCompile`. -/
theorem after_verbsCompile (h : c.session.Anchored) (hverbs : c.session.world.VerbsCompile)
    {history : List Event} (hunloaded : c.Unloaded history) :
    (c.after history).session.world.VerbsCompile := by
  induction history generalizing c with
  | nil => exact hverbs
  | cons e rest ih =>
    obtain ⟨hfirst, hrest⟩ := unloaded_cons.1 hunloaded
    cases e with
    | typed line =>
      have hturn := c.handle_turn line
      exact ih (hturn.anchored h).1
        (hturn.verbsCompile h hverbs fun path => hfirst line path rfl) hrest
    | files disk => exact ih (c := { c with disk }) h hverbs hrest

/-! ### What a user relies on -/

/-- **What a user relies on between two lines**: the alias names the object that scripts run on,
this object exists and can be given verbs, and no line is refused with a fault. -/
structure Sound (c : Console) : Prop where
  /-- The alias names the object of the session. -/
  named : c.session.world.alias? Session.playerAlias = some c.session.player
  /-- This object exists, and what it has is listed. -/
  listed : ∃ o, c.session.world.object? c.session.player = some o ∧
    c.session.props = .ok o.props.toList ∧ c.session.verbNames = o.verbs.keys
  /-- What compiles can be defined on it. -/
  defines : ∀ name source script, Script.compile source = .ok script →
    ∃ s, c.session.defineVerb name source = .ok s
  /-- No line is refused because there is no such object, or with any other fault. -/
  refused : ∀ line fault, (c.handle line).2 ≠ .error (.raised fault)
  /-- Whatever script is run, whenever the alias is asked for, the answer is the object. -/
  answered : ∀ script n, (Host.serve ((c.session.task script).tickTimes c.session.stage n).2.1
    (.resolveAlias Session.playerAlias)).2 = .ok (.value (.object c.session.player))
  /-- So a script that returns what the alias names results in the object. -/
  returned : (∀ limit, c.session.settings.limit = some limit → 2 ≤ limit) →
    (c.session.runSource "$_return = ##Me").2 = .ok (.object c.session.player)

/-- **What a user relies on as long as no world is loaded**: nothing that is called is rejected
then. -/
structure Compiled (c : Console) : Prop where
  verbs : c.session.world.VerbsCompile
  scripts : ∀ script e, (c.session.runScript script).2 ≠ .error (.raised (.compile e))
  lines : ∀ line said e, (c.handle line).2 ≠ .ok (.failed said (.raised (.compile e)))

/-- What a user relies on follows from the session being anchored. Each of the parts is a lemma
about such sessions; here they are only put together for the console. -/
theorem sound_of_anchored (h : c.session.Anchored) : c.Sound where
  named := h.named
  listed := h.exists_player
  defines name source script hcompile := by
    rcases h.defineVerb_eq name source with ⟨e, herror, -⟩ | ⟨_, _, -, -, heq⟩
    · rw [hcompile] at herror
      cases herror
    · exact ⟨_, heq⟩
  refused line fault := (c.handle_turn line).ne_raised h fault
  answered := h.answers
  returned := h.runSource_me

theorem compiled_of_verbsCompile (h : c.session.world.VerbsCompile) : c.Compiled where
  verbs := h
  scripts := Session.runScript_compiled h
  lines line said e houtcome := by
    have hturn := c.handle_turn line
    rw [houtcome] at hturn
    -- a script that is rejected has not been run, so its own error is not one of a verb
    rcases hturn.failed with ⟨e', heq⟩ | ⟨script, hrun⟩
    · cases heq
    · exact Session.runScript_compiled h script e hrun

/-- **A session keeps its object, and its verbs compile.** Let a session take over any world, and
let any lines be typed into its console, while the files change as they may. The alias then names
the object of the session, which exists, so that no line is refused because it does not, and in
every script the alias is this object. If the world was empty at the beginning, and no line has
loaded another one, then every verb that is stored compiles, and neither a script nor a call is
stopped because a verb does not. -/
theorem after_sound :
    (∀ (store : Store) (settings : Settings) (c : Console) (history : List Event),
      c.session = .ofStore store settings →
      (c.after history).Sound ∧ (c.after history).session.settings = settings) ∧
    (∀ (settings : Settings) (c : Console) (history : List Event),
      c.session = .start settings → c.Unloaded history → (c.after history).Compiled) := by
  constructor
  · -- a session gives itself an object if the world has none for it, so it is anchored from the
    -- start
    intro store settings c history hc
    have hanchored : c.session.Anchored := by
      rw [hc]
      exact Session.ofStore_anchored store settings
    obtain ⟨hlast, hsettings⟩ := after_anchored hanchored history
    refine ⟨sound_of_anchored hlast, ?_⟩
    rw [hsettings, hc]
    rfl
  · intro settings c history hc hunloaded
    have hanchored : c.session.Anchored := by
      rw [hc]
      exact Session.ofStore_anchored _ settings
    -- an empty world has no verbs that could fail to compile
    have hverbs : c.session.world.VerbsCompile := by
      rw [hc]
      exact Session.start_verbsCompile settings
    exact compiled_of_verbsCompile (after_verbsCompile hanchored hverbs hunloaded)

/-- A world with one object, which has the alias of sessions. -/
def lonely : Store :=
  { world :=
      { objects := Table.ofList [(⟨5⟩, { id := ⟨5⟩ })]
        aliases := Table.ofList [("Me", ⟨5⟩)] }
    stream := { seed := 0 } }

/-- A console on this world. -/
def lonelyConsole : Console := { session := .ofStore lonely {} }

/-- A console on an empty world. -/
def newConsole : Console := { session := .start {} }

/-- A load that fails, and a verb that returns the object it is called on. -/
def whoDefined : List Event :=
  [.typed ".load nowhere", .typed "$_return = ##Me", .typed ".verb who"]

/-- The line that asks for a file is refused, so the history loads no world. -/
theorem whoDefined_unloaded : newConsole.Unloaded whoDefined := by
  refine unloaded_cons.2 ⟨?_, unloaded_cons.2 ⟨?_, unloaded_cons.2 ⟨?_, unloaded_nil _⟩⟩⟩
  · rintro line path ⟨⟩ -
    exact ⟨_, rfl⟩
  · rintro line path ⟨⟩ hline
    exact absurd hline nofun
  · rintro line path ⟨⟩ hline
    exact absurd hline nofun

/-- On the one world `Me` is the object 5; on an empty one it is some new object. On the first one
the verb that was defined is listed, and a script gets the player under this name. -/
theorem whoDefined_sound :
    (lonelyConsole.after whoDefined).Sound ∧
      ((lonelyConsole.after whoDefined).handle ".verbs").2 = .ok (.output ["who"]) ∧
      ((lonelyConsole.after whoDefined).session.runSource "$_return = ##Me").2
        = .ok (.object ⟨5⟩) ∧
      newConsole.Unloaded whoDefined ∧ (newConsole.after whoDefined).Compiled := by
  obtain ⟨hsound, hsettings⟩ := after_sound.1 lonely {} lonelyConsole whoDefined rfl
  -- the settings are those of the beginning, and their limit leaves room for the two ticks
  have hlimit : ∀ limit, (lonelyConsole.after whoDefined).session.settings.limit = some limit →
      2 ≤ limit := by
    rw [hsettings]
    rintro _ ⟨⟩
    decide
  have hplayer : (lonelyConsole.after whoDefined).session.player = ⟨5⟩ := by rfl
  have hverbs : ((lonelyConsole.after whoDefined).handle ".verbs").2
      = .ok (.output ["who"]) := by rfl
  refine ⟨hsound, hverbs, ?_, whoDefined_unloaded,
    after_sound.2 {} newConsole whoDefined rfl whoDefined_unloaded⟩
  rw [hsound.returned hlimit, hplayer]

end Console

end VerbScript
