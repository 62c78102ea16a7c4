import Mathlib.Data.List.DropRight
import VerbScript.Proofs.ConsoleHistories
import VerbScript.Proofs.SpokenLines

/-!
# The lines that wait, and the lines that are shown

Between two lines the buffer of a console holds the source lines that have been typed since it was
last emptied, and the session holds nothing that a script has said and that has not been shown. This
is so after every history, whatever has failed in it. So a script is run or stored from these lines
and no others, and all that scripts have said has been shown once, in the order in which it was
said.

* `Console.entries` — the lines of a history, each with the console that takes it.
* `Console.waiting` — the source lines since the buffer was last emptied.
* `Console.handle_buffer`, `Console.handle_store`, `Console.handle_script` — what a line does to the
  buffer and to the world, and what the line of a script leads to.
* `Console.Accounted` — the account that a console gives between two lines, and
  `Console.after_accounted`, the theorem.
-/

namespace VerbScript

namespace Session

variable {s : Session}

/-- Runs what has been compiled, or reports that it was rejected. Lines that run the buffer and
lines that call a verb differ in what they compile only. -/
def runCompiled (s : Session) : Except SyntaxError Script → Session × Except Failure Value
  | .ok script => s.runScript script
  | .error e => (s, .error (.rejected e))

/-- Running a source runs what has been compiled from it. -/
theorem runSource_eq (s : Session) (source : String) :
    s.runSource source = s.runCompiled (Script.compile source) := by
  unfold runSource runCompiled
  cases Script.compile source <;> rfl

/-- Calling a verb runs the script of the call, if there is one. -/
theorem callLine_eq (s : Session) (line : String) :
    s.callLine line = s.runCompiled ((readCall line).map callScript) := by
  unfold callLine runCompiled
  cases readCall line <;> rfl

/-- What is said when this is run: nothing, if it has been rejected. It is what the native verbs
speak that the run calls. -/
def saidBy (s : Session) : Except SyntaxError Script → List String
  | .ok script => s.said script
  | .error _ => []

/-- The output that is taken after a run is what has been said in it, if nothing was waiting
before. -/
theorem runCompiled_said (h : s.stage.output = []) (compiled : Except SyntaxError Script) :
    (s.runCompiled compiled).1.takeOutput.1 = s.saidBy compiled := by
  cases compiled with
  | ok script =>
    have hsaid := s.runScript_said script
    rw [h] at hsaid
    exact hsaid
  | error e => exact congrArg List.reverse h

/-- Storing a verb takes nothing back that has been said. If the verb could be stored, the session
is the old one with another verb on the player. -/
theorem defineVerb_output {name source : String} {s' : Session}
    (h : s.defineVerb name source = .ok s') : s'.stage.output = s.stage.output := by
  unfold defineVerb at h
  split at h
  · -- the source was rejected, or the player does not exist, and there is no such session
    cases h
  · cases h
  · cases h
    rfl

/-- In a world that has just been loaded nothing has been said. -/
theorem load_output {disk : Disk} {path : String} {s' : Session} (h : s.load disk path = .ok s') :
    s'.stage.output = [] := by
  obtain ⟨store, -, rfl⟩ := Except.map_eq_ok h
  rfl

end Session

/-- Whether a command empties the buffer, given whether it has succeeded: it runs what is in it, or
clears it, or has stored it as a verb. -/
def Command.empties (done : Bool) : Command → Bool
  | run => true
  | clear => true
  | verb _ => done
  | _ => false

/-- Whether a command may change the world: it runs a script, or has stored a verb or loaded a
world. -/
def Command.rewrites (done : Bool) : Command → Bool
  | run => true
  | call _ => true
  | verb _ => done
  | load _ => done
  | _ => false

namespace Console

variable {c : Console} {line : String}

/-! ### Histories -/

/-- The lines that are typed in a history, each with the console that takes it. That files change is
no line of it, but the next line is taken with the new files. -/
def entries (c : Console) : List Event → List (Console × String)
  | [] => []
  | .typed line :: rest => (c, line) :: (c.meet (.typed line)).entries rest
  | .files disk :: rest => (c.meet (.files disk)).entries rest

/-- A line that is no command: it does not begin with a dot, but for blanks. -/
def isSource (line : String) : Bool := (Text.trim line.toList).head? != some '.'

/-- Whether a line empties the buffer. It may depend on what the line leads to: a verb that could
not be stored leaves the lines there. -/
def empties (c : Console) (line : String) : Bool :=
  (Command.ofLine? line.toList).any (Command.empties (c.handle line).2.isOk)

/-- **The lines that wait** after others: the source lines behind the last line that has emptied the
buffer. This is said of the lines alone, and not of any buffer. -/
def waiting (entries : List (Console × String)) : List String :=
  ((entries.rtakeWhile fun e => !e.1.empties e.2).map Prod.snd).filter isSource

/-- What a line runs, if it runs a script. The script may have been rejected already; then nothing
is run, but the line is one of these. -/
def compiled? (c : Console) (line : String) : Option (Except SyntaxError Script) :=
  match Command.ofLine? line.toList with
  | some .run => some (Script.compile c.source)
  | some (.call argument) => some ((Session.readCall argument).map Session.callScript)
  | _ => none

/-- Whether a line may change the world. -/
def rewrites (c : Console) (line : String) : Bool :=
  (Command.ofLine? line.toList).any (Command.rewrites (c.handle line).2.isOk)

/-! ### What is shown -/

/-- The outcome of a script that has said something and has this result. Its last line tells the
result, unless this is `null`. -/
def answer (said : List String) : Except Failure Value → ConsoleOutcome
  | .ok .null => .output said
  | .ok v => .output (said ++ ["=> " ++ v.shown])
  | .error failure => .failed said failure

/-- The lines of an outcome without the one that closes it with the result. -/
def withoutResult (result : Except Failure Value) : ConsoleOutcome → List String
  | .output lines =>
    match result with
    | .ok .null => lines
    | _ => lines.dropLast
  | .failed lines _ => lines
  | .buffered => []
  | .quit => []

/-- Without the line of the result, an outcome has what the script has said. A script that fails has
no such line, nor has one whose result is null. -/
theorem withoutResult_answer (said : List String) (result : Except Failure Value) :
    withoutResult result (answer said result) = said := by
  cases result with
  | error failure => rfl
  | ok v =>
    cases v with
    | null => rfl
    | _ => exact List.dropLast_concat

/-- What a line says, if it runs a script. It is counted from the requests of the run, and not from
what is shown. -/
def said (c : Console) (line : String) : List String :=
  ((c.compiled? line).map c.session.saidBy).getD []

/-- What a line that runs a script has shown of what it says. It is taken from the outcome, without
the line that tells the result. -/
def shown (c : Console) (line : String) : List String :=
  match c.compiled? line, (c.handle line).2 with
  | some compiled, .ok outcome => withoutResult (c.session.runCompiled compiled).2 outcome
  | _, _ => []

/-- What a console reports of a run is the answer made of its output and its result. -/
theorem finish_answer (c : Console) (result : Session × Except Failure Value) :
    (c.finish result).2 = answer result.1.takeOutput.1 result.2 := by
  obtain ⟨s, (failure | v)⟩ := result
  · rfl
  · cases v <;> rfl

/-- Reporting a run leaves the buffer alone. -/
theorem finish_kept (c : Console) (result : Session × Except Failure Value) :
    (c.finish result).1.buffer = c.buffer := by
  unfold finish
  dsimp only
  split <;> rfl

/-! ### One line -/

/-- A source line is put by. -/
theorem handle_source (h : Command.ofLine? line.toList = none) :
    c.handle line = ({ c with buffer := c.buffer ++ [line] }, .ok .buffered) := by
  unfold handle
  rw [h]

/-- A command is carried out. -/
theorem handle_command {asked : Command} (h : Command.ofLine? line.toList = some asked) :
    c.handle line = c.command asked := by
  unfold handle
  rw [h]

/-- The source lines are those that are read as no command, as a command begins with a dot. -/
theorem isSource_eq (line : String) :
    isSource line = (Command.ofLine? line.toList).isNone := by
  unfold isSource Command.ofLine?
  dsimp only
  split
  · next hdot => rw [hdot]; rfl
  · next hdot => exact bne_iff_ne.2 hdot

/-- **What a line does to a console**, and what it leads to. Whatever is said below about a line
goes through these six cases, and not through the commands. -/
inductive Takes (c : Console) (line : String) : Console → Except Failure ConsoleOutcome → Prop where
  | buffered (source : isSource line = true) :
      Takes c line { c with buffer := c.buffer ++ [line] } (.ok .buffered)
  /-- A script is run, or was rejected. -/
  | script {compiled : Except SyntaxError Script} {buffer : List String}
      (asked : c.compiled? line = some compiled)
      (left : buffer = if c.empties line then [] else c.buffer) :
      Takes c line ({ c with buffer }.finish (c.session.runCompiled compiled)).1
        (.ok (answer (c.session.runCompiled compiled).1.takeOutput.1
          (c.session.runCompiled compiled).2))
  /-- The buffer has been stored as a verb. -/
  | stored {name : String} {s : Session} (done : c.session.defineVerb name c.source = .ok s)
      (empties : c.empties line = true) (rewrites : c.rewrites line = true) (text : String) :
      Takes c line { c with session := s, buffer := [] } (.ok (message text))
  | cleared (empties : c.empties line = true) (text : String) :
      Takes c line { c with buffer := [] } (.ok (message text))
  | loaded {path : String} {s : Session} (done : c.session.load c.disk path = .ok s)
      (empties : c.empties line = false) (rewrites : c.rewrites line = true) (text : String) :
      Takes c line { c with session := s } (.ok (message text))
  /-- The buffer and all that scripts can change are kept. -/
  | kept {c' : Console} {outcome : Except Failure ConsoleOutcome} (buffer : c'.buffer = c.buffer)
      (stage : c'.session.stage = c.session.stage) (empties : c.empties line = false) :
      Takes c line c' outcome

/-- Whether the line of a command empties the buffer depends on the command, and on whether it has
succeeded. -/
theorem empties_command {asked : Command} (h : Command.ofLine? line.toList = some asked) :
    c.empties line = asked.empties (c.command asked).2.isOk := by
  unfold empties
  rw [handle_command h, h]
  rfl

/-- So it is with whether the line may change the world. -/
theorem rewrites_command {asked : Command} (h : Command.ofLine? line.toList = some asked) :
    c.rewrites line = asked.rewrites (c.command asked).2.isOk := by
  unfold rewrites
  rw [handle_command h, h]
  rfl

/-- The line that runs the buffer compiles all of its lines. -/
theorem compiled?_run (h : Command.ofLine? line.toList = some .run) :
    c.compiled? line = some (Script.compile c.source) := by
  unfold compiled?
  rw [h]

/-- The line of a call compiles what stands behind the command. -/
theorem compiled?_call {argument : String}
    (h : Command.ofLine? line.toList = some (.call argument)) :
    c.compiled? line = some ((Session.readCall argument).map Session.callScript) := by
  unfold compiled?
  rw [h]

/-- Storing the buffer as a verb empties it only if the verb could be stored. -/
theorem command_verb (c : Console) (name : String) :
    c.command (.verb name) = match c.session.defineVerb name c.source with
      | .ok s => ({ c with session := s, buffer := [] },
          .ok (message ("verb " ++ name ++ " defined on " ++ s.player.display)))
      | .error failure => (c, .error failure) := rfl

/-- **Every line does one of these things.** This goes through the commands, once for everything
that is said of lines. -/
theorem handle_takes (c : Console) (line : String) :
    c.Takes line (c.handle line).1 (c.handle line).2 := by
  cases hline : Command.ofLine? line.toList with
  | none =>
    rw [handle_source hline]
    exact .buffered (by rw [isSource_eq, hline]; rfl)
  | some asked =>
    have hempties := empties_command (c := c) hline
    have hrewrites := rewrites_command (c := c) hline
    rw [handle_command hline]
    cases asked with
    | run =>
      -- the buffer is empty before the script is run, whatever becomes of it
      have hcommand : c.command .run
          = (({ c with buffer := [] }.finish (c.session.runSource c.source)).1,
            .ok ({ c with buffer := [] }.finish (c.session.runSource c.source)).2) := rfl
      rw [hcommand, finish_answer, Session.runSource_eq]
      exact .script (compiled?_run hline) (by rw [hempties]; rfl)
    | call argument =>
      have hcommand : c.command (.call argument)
          = ((c.finish (c.session.callLine argument)).1,
            .ok (c.finish (c.session.callLine argument)).2) := rfl
      rw [hcommand, finish_answer, Session.callLine_eq]
      -- a call does not touch the buffer
      have hbuffer : c.buffer = if c.empties line then [] else c.buffer := by
        rw [hempties]
        rfl
      exact .script (compiled?_call hline) hbuffer
    | clear => exact .cleared hempties _
    | verb name =>
      rw [command_verb] at hempties hrewrites ⊢
      cases hdefine : c.session.defineVerb name c.source with
      | ok s =>
        rw [hdefine] at hempties hrewrites
        exact .stored hdefine hempties hrewrites _
      | error failure =>
        -- the lines still wait
        rw [hdefine] at hempties
        exact .kept rfl rfl hempties
    | load path =>
      have hcommand : c.command (.load path) = match c.session.load c.disk path with
          | .ok s => ({ c with session := s }, .ok (message ("loaded " ++ path)))
          | .error failure => (c, .error failure) := rfl
      rw [hcommand] at hrewrites ⊢
      cases hload : c.session.load c.disk path with
      | ok s =>
        rw [hload] at hrewrites
        exact .loaded hload hempties hrewrites _
      | error failure => exact .kept rfl rfl hempties
    | ast =>
      dsimp only [command]
      split <;> exact .kept rfl rfl hempties
    | save path =>
      dsimp only [command]
      split <;> exact .kept rfl rfl hempties
    | trace mode => cases mode <;> exact .kept rfl rfl hempties
    | _ => exact .kept rfl rfl hempties

/-- **What a line does to the buffer**: it is emptied, or a source line joins it, or it is as it
was. Nothing takes single lines out of it. -/
theorem handle_buffer (c : Console) (line : String) :
    (c.handle line).1.buffer = if c.empties line then []
      else c.buffer ++ [line].filter isSource := by
  cases hline : Command.ofLine? line.toList with
  | none =>
    have hempties : c.empties line = false := by
      unfold empties
      rw [hline]
      rfl
    have hsource : isSource line = true := by
      rw [isSource_eq, hline]
      rfl
    rw [handle_source hline, hempties, List.filter_cons_of_pos hsource]
    rfl
  | some asked =>
    -- a command does not wait itself
    have hsource : isSource line = false := by
      rw [isSource_eq, hline]
      rfl
    have hfilter : [line].filter isSource = [] :=
      List.filter_cons_of_neg (Bool.eq_false_iff.1 hsource)
    rw [hfilter, List.append_nil]
    have htakes := c.handle_takes line
    generalize (c.handle line).1 = c', (c.handle line).2 = outcome at htakes ⊢
    cases htakes with
    | buffered source => exact absurd (source.symm.trans hsource) nofun
    -- what is left of the buffer has been settled before the run is reported
    | script asked left => exact (finish_kept _ _).trans left
    | stored done empties rewrites text =>
      rw [empties]
      rfl
    | cleared empties text =>
      rw [empties]
      rfl
    | loaded done empties rewrites text =>
      rw [empties]
      rfl
    | kept buffer stage empties =>
      rw [buffer, empties]
      rfl

/-- A line that runs a script may change the world. -/
theorem rewrites_of_compiled? {compiled : Except SyntaxError Script}
    (h : c.compiled? line = some compiled) : c.rewrites line = true := by
  unfold compiled? at h
  split at h
  · next hline => exact rewrites_command hline
  · next hline => exact rewrites_command hline
  · cases h

/-- **A line changes the world** only if it is one of those that may. What it shows, traces or saves
leaves the world alone. -/
theorem handle_store (h : c.rewrites line = false) :
    (c.handle line).1.session.stage.store = c.session.stage.store := by
  -- nothing has to be shown of a line that may
  have htrue : ∀ {p : Prop}, c.rewrites line = true → p := fun hrewrites =>
    absurd (hrewrites.symm.trans h) nofun
  have htakes := c.handle_takes line
  generalize (c.handle line).1 = c', (c.handle line).2 = outcome at htakes ⊢
  cases htakes with
  | buffered source => rfl
  | script asked left => exact htrue (rewrites_of_compiled? asked)
  | stored done empties rewrites text => exact htrue rewrites
  | cleared empties text => rfl
  | loaded done empties rewrites text => exact htrue rewrites
  | kept buffer stage empties => rw [stage]

/-- **Nothing that has been said is left over** when a line has been taken. This is the invariant of
the output: each run begins and ends with none. -/
theorem handle_output (h : c.session.stage.output = []) (line : String) :
    (c.handle line).1.session.stage.output = [] := by
  have htakes := c.handle_takes line
  generalize (c.handle line).1 = c', (c.handle line).2 = outcome at htakes ⊢
  cases htakes with
  | buffered source => exact h
  | script asked left =>
    -- whatever is said has been taken
    rw [finish_session]
    rfl
  | stored done empties rewrites text => exact (Session.defineVerb_output done).trans h
  | cleared empties text => exact h
  | loaded done empties rewrites text => exact Session.load_output done
  -- the stage, and with it the output, has not been touched
  | kept buffer stage empties => rw [stage, h]

/-- What a line that runs a script leads to, if nothing that has been said is left over: the output
of the run is what the line says. -/
theorem handle_script (h : c.session.stage.output = []) {compiled : Except SyntaxError Script}
    (hasked : c.compiled? line = some compiled) :
    (c.handle line).1.session = (c.session.runCompiled compiled).1.takeOutput.2 ∧
      (c.handle line).2 = .ok (answer (c.said line) (c.session.runCompiled compiled).2) := by
  have hsaid : c.said line = (c.session.runCompiled compiled).1.takeOutput.1 := by
    rw [Session.runCompiled_said h, said, hasked]
    rfl
  rw [hsaid]
  unfold compiled? at hasked
  split at hasked
  · next hline =>
    -- the outcome does not depend on what is left in the buffer
    cases hasked
    rw [handle_command hline, ← Session.runSource_eq, ← finish_answer { c with buffer := [] }]
    exact ⟨finish_session _ _, rfl⟩
  · next hline =>
    cases hasked
    rw [handle_command hline, ← Session.callLine_eq, ← finish_answer c]
    exact ⟨finish_session _ _, rfl⟩
  · cases hasked

/-- **A line has shown what it has said.** The outcome of a run has its output, in front of the
result or of the fault that has ended it. -/
theorem shown_eq_said (h : c.session.stage.output = []) (line : String) :
    c.shown line = c.said line := by
  unfold shown
  cases hasked : c.compiled? line with
  -- the line runs no script, and there is nothing to be shown
  | none =>
    unfold said
    rw [hasked]
    rfl
  | some compiled =>
    rw [(handle_script h hasked).2]
    exact withoutResult_answer _ _

/-! ### The account -/

/-- One more line empties the list of those that wait, or joins it if it is a source line. Any other
line, such as one that lists the verbs, leaves the list as it is. -/
theorem waiting_concat (entries : List (Console × String)) (c : Console) (line : String) :
    waiting (entries ++ [(c, line)]) = if c.empties line then []
      else waiting entries ++ [line].filter isSource := by
  unfold waiting
  rw [List.rtakeWhile_concat]
  cases hempties : c.empties line with
  | true => rfl
  | false =>
    -- a line that does not empty the buffer is one more behind the last one that has
    simp only [Bool.not_false, if_true, List.map_append, List.filter_append]
    rfl

/-- **The account that a console gives between two lines**, of the lines that wait. Its parts are
about all lines that may come next, so the account says what each of them will do. -/
structure Accounted (lines : List String) (c : Console) : Prop where
  buffer : c.buffer = lines
  /-- All that scripts have said has been shown. -/
  output : c.session.stage.output = []
  /-- The lines are what is run. -/
  run : ∀ line, Command.ofLine? line.toList = some .run →
    (c.handle line).1.session = (c.session.runSource ("\n".intercalate lines)).1.takeOutput.2 ∧
    (c.handle line).2
      = .ok (answer (c.said line) (c.session.runSource ("\n".intercalate lines)).2)
  /-- The lines are what is stored. -/
  verb : ∀ line name, Command.ofLine? line.toList = some (.verb name) →
    (∀ s, c.session.defineVerb name ("\n".intercalate lines) = .ok s →
      (c.handle line).1.session = s ∧ (c.handle line).2.isOk) ∧
    (∀ failure, c.session.defineVerb name ("\n".intercalate lines) = .error failure →
      c.handle line = (c, .error failure))
  /-- A call shows what it says, and then its result. -/
  call : ∀ line argument, Command.ofLine? line.toList = some (.call argument) →
    (c.handle line).1.session = (c.session.callLine argument).1.takeOutput.2 ∧
    (c.handle line).2 = .ok (answer (c.said line) (c.session.callLine argument).2)
  /-- Only these lines change the world. -/
  world : ∀ line, c.rewrites line = false →
    (c.handle line).1.session.stage.store = c.session.stage.store

/-- A console without output that has not been shown gives the account of its own buffer. What is
left for a history to show is that the buffer is made of the lines that wait. -/
theorem accounted (h : c.session.stage.output = []) : c.Accounted c.buffer where
  buffer := rfl
  output := h
  run line hline := by
    rw [show "\n".intercalate c.buffer = c.source from rfl, Session.runSource_eq]
    exact handle_script h (compiled?_run hline)
  verb line name hline := by
    rw [show "\n".intercalate c.buffer = c.source from rfl, handle_command hline, command_verb]
    constructor
    · intro s hdefine
      rw [hdefine]
      exact ⟨rfl, rfl⟩
    · intro failure hdefine
      rw [hdefine]
  call line argument hline := by
    rw [Session.callLine_eq]
    exact handle_script h (compiled?_call hline)
  world line := handle_store

/-- **The account is kept** through a history, and the lines of the history have shown what they
have said. The induction is on the history, taken from its beginning, for whatever has been typed
before it. -/
theorem after_kept (history : List Event) (before : List (Console × String))
    (hbuffer : c.buffer = waiting before) (houtput : c.session.stage.output = []) :
    (c.after history).buffer = waiting (before ++ c.entries history) ∧
      (c.after history).session.stage.output = [] ∧
      ∀ e ∈ c.entries history, e.1.shown e.2 = e.1.said e.2 := by
  -- the lines that have been typed are those before, and those of the history
  induction history generalizing c before with
  | nil =>
    rw [entries, List.append_nil]
    exact ⟨hbuffer, houtput, nofun⟩
  | cons event rest ih =>
    cases event with
    | typed line =>
      have hnext : (c.handle line).1.buffer = waiting (before ++ [(c, line)]) := by
        rw [handle_buffer, waiting_concat, hbuffer]
      obtain ⟨hlast, hquiet, hshown⟩ := ih _ hnext (handle_output houtput line)
      rw [List.append_assoc] at hlast
      refine ⟨hlast, hquiet, fun e he => ?_⟩
      rcases List.mem_cons.1 he with rfl | he
      · exact shown_eq_said houtput line
      · exact hshown e he
    | files disk =>
      -- the files are no part of the account
      exact ih (c := { c with disk }) before hbuffer houtput

/-- **Buffers and outputs are accounted for.** Let a console be opened on any world, and let any
lines be typed into it, while the files change as they may. Then its buffer holds, in order and as
they were typed, the source lines since the last line that has run the buffer, cleared it or stored
it as a verb. What is run or stored next is made of these lines. The world is changed by no lines
but those that run or call a script, have stored a verb or have loaded a world. And the lines shown
by scripts and calls, without the results that close them, are all that native verbs have spoken, in
the order in which they were called. -/
theorem after_accounted (store : Store) (settings : Settings) (disk : Disk)
    (history : List Event) :
    let opened : Console := { session := .ofStore store settings, disk }
    let entries := opened.entries history
    (opened.after history).Accounted (waiting entries) ∧
      entries.flatMap (fun e => e.1.shown e.2) = entries.flatMap (fun e => e.1.said e.2) := by
  intro opened entries
  obtain ⟨hbuffer, houtput, hshown⟩ :=
    after_kept (c := opened) history [] rfl rfl
  refine ⟨?_, List.flatMap_congr hshown⟩
  rw [← show (opened.after history).buffer = waiting entries from hbuffer]
  exact accounted houtput

/-- A line that cannot be stored as a verb is kept, and another one waits with it. -/
def keptLines : List Event := [.typed "if", .typed ".verb who", .typed " say bye "]

/-- A line is run that says something. -/
def chatter : List Event := [.typed "say hello", .typed ".run"]

/-- The script of the line. -/
def greeting : Script := [.call ⟨"say", some [.word "hello"], none, none, [.word "hello"]⟩]

theorem compile_greeting : Script.compile "say hello" = .ok greeting := by decide +kernel

/-- The greeting has been shown, and the two lines still wait. -/
theorem chatter_accounted :
    (lonelyConsole.after keptLines).Accounted ["if", " say bye "] ∧
      (lonelyConsole.entries chatter).flatMap (fun e => e.1.shown e.2) = ["hello"] := by
  obtain ⟨haccounted, -⟩ := after_accounted lonely {} {} keptLines
  obtain ⟨-, hshown⟩ := after_accounted lonely {} {} chatter
  have hwaiting : waiting (lonelyConsole.entries keptLines) = ["if", " say bye "] := by rfl
  have hsaid : ({ lonelyConsole with buffer := ["say hello"] } : Console).said ".run"
      = ["hello"] := by
    rw [said, compiled?_run rfl]
    change lonelyConsole.session.saidBy (Script.compile "say hello") = _
    rw [compile_greeting]
    rfl
  -- of the two lines that are typed the first one is put by, and says nothing
  refine ⟨hwaiting ▸ haccounted, hshown.trans ?_⟩
  change _ ++ (({ lonelyConsole with buffer := ["say hello"] } : Console).said ".run" ++ []) = _
  rw [hsaid]
  rfl

end Console

end VerbScript
