import HostFacts.Proofs.Command.Arguments
import HostFacts.Proofs.Command.Results
import HostFacts.Proofs.Dictionary
import HostFacts.Proofs.World
import Mathlib.Data.List.Forall2

/-!
# Debug messages do not interfere

Whether messages are shown is one variable of the environment, and no operation
reads that variable: every other look at the environment is for a name of its
own. So two worlds that differ in this variable at most (`SameButDebug`) give
every operation the same answer, the same messages and the same cells, which is
shown one operation after another from the look at a variable up. What is left
is the log, which is those messages or nothing. A run of operations sees a
different world at each step, and the argument is carried along the run.

The command can set the variable for itself. That is the same as to be called
with it set (`run_debug`), as nothing that comes before has a message.
-/

namespace HostFacts

/-- Worlds that differ in the variable of the debug messages at most. -/
structure World.SameButDebug (w w' : World) : Prop where
  host : w.host = w'.host
  files : w.files = w'.files
  accounts : w.accounts = w'.accounts
  get? : ∀ name, name ≠ debugVariable → w.env.get? name = w'.env.get? name

theorem World.sameButDebug_withMessages (w : World) :
    w.SameButDebug (Command.withMessages w) where
  host := rfl
  files := rfl
  accounts := rfl
  get? name hname := by
    show w.env.get? name = (Dictionary.put debugVariable ("1" : Text) w.env).get? name
    rw [Dictionary.get?_put, if_neg hname]

namespace World.SameButDebug

variable {w w' : World} (h : w.SameButDebug w')

include h

theorem sameFacts : w.SameFacts w' where
  host := h.host
  files := h.files
  accounts := h.accounts
  get? name hname := h.get? name fun heq => absurd (heq ▸ hname) (by decide)

/-! ## Settings -/

theorem defaultPath : Settings.defaultPath w = Settings.defaultPath w' := by
  unfold Settings.defaultPath World.home Environment.nonEmpty?
  rw [h.get? Settings.pathVariable (by decide), h.sameFacts.homeFor]

theorem loadDefault : Settings.loadDefault w = Settings.loadDefault w' := by
  unfold Settings.loadDefault
  rw [h.defaultPath]
  simp only [h.sameFacts.loadFile]

/-! ## Sessions and processes -/

theorem getProbes (session : Session) : session.getProbes w = session.getProbes w' := by
  have hstart : Session.start w = Session.start w' := by
    unfold Session.start
    rw [h.loadDefault]
    simp only [h.sameFacts.detect]
  unfold Session.getProbes
  rw [hstart]

theorem make (session : Session) (inquiry : Process.Inquiry) :
    inquiry.make session w = inquiry.make session w' := by
  have hsnapshot : session.getSnapshot w = session.getSnapshot w' := by
    unfold Session.getSnapshot
    rw [h.getProbes]
  cases inquiry with
  | getSnapshot => simp only [Process.Inquiry.make, hsnapshot]
  | getProbes => simp only [Process.Inquiry.make, h.getProbes]
  | isOsVersionAtLeast version | isRuntimeVersionAtLeast version =>
      simp only [Process.Inquiry.make, Session.isOsVersionAtLeast,
        Session.isRuntimeVersionAtLeast, Session.askSnapshot, hsnapshot]
  | ask call =>
      simp only [Process.Inquiry.make, Session.askProbes, h.getProbes, (h.sameFacts.sameLooks _).attempt]

/-- Every operation comes to the same, with the same messages. -/
theorem perform (process : Process) (operation : Process.Operation) :
    process.perform w operation = process.perform w' operation := by
  cases operation with
  | say level text => rfl
  | loadFile path => simp only [Process.perform, h.sameFacts.loadFile]
  | loadText text => rfl
  | locateSettings => simp only [Process.perform, h.defaultPath]
  | takeSnapshot settings env =>
      cases env with
      | some env => simp only [Process.perform, Option.getD_some, h.host]
      | none => simp only [Process.perform, Option.getD_none, h.sameFacts.detect]
  | makeProbes snapshot settings => rfl
  | askProbes number call => simp only [Process.perform, (h.sameFacts.sameLooks _).attempt]
  | inquire inquiry => simp only [Process.perform, h.make]

/-! ## The command -/

theorem report (o : Command.Options) : Command.report w o = Command.report w' o := by
  have hplace : Command.settingsPlace w o.settingsFile
      = Command.settingsPlace w' o.settingsFile := by
    unfold Command.settingsPlace
    rw [h.defaultPath]
  have hprobes : Command.probesFor w o.settingsFile = Command.probesFor w' o.settingsFile := by
    unfold Command.probesFor Command.settingsFor
    rw [hplace]
    simp only [h.sameFacts.loadFile, h.sameFacts.detect]
  unfold Command.report Command.reportOf
  rw [hprobes]
  simp only [(h.sameFacts.sameLooks _).releaseFacts]

end World.SameButDebug

/-! ## Runs of operations -/

namespace Process

/-- Steps that differ at most in whether their messages are shown. -/
def SameButDebug (step step' : World × Operation) : Prop :=
  step.1.SameButDebug step'.1 ∧ step.2 = step'.2

theorem map_seen_run {steps steps' : List (World × Operation)}
    (h : List.Forall₂ SameButDebug steps steps') (process : Process) :
    (process.run steps).map Record.seen = (process.run steps').map Record.seen := by
  induction h generalizing process with
  | nil => rfl
  | @cons step step' steps steps' hstep _ ih =>
      obtain ⟨w, operation⟩ := step
      obtain ⟨w', operation'⟩ := step'
      obtain ⟨hw, rfl⟩ := hstep
      have hperform := hw.perform process operation
      simp only [run, List.map_cons, Record.seen, hperform]
      exact congrArg _ (ih _)

/-- Where both runs show their messages throughout they write the same log as well. -/
theorem run_eq_of_shows {steps steps' : List (World × Operation)}
    (h : List.Forall₂ (fun step step' => SameButDebug step step'
      ∧ step.1.env.showsMessages ∧ step'.1.env.showsMessages) steps steps')
    (process : Process) : process.run steps = process.run steps' := by
  induction h generalizing process with
  | nil => rfl
  | @cons step step' steps steps' hstep _ ih =>
      obtain ⟨w, operation⟩ := step
      obtain ⟨w', operation'⟩ := step'
      obtain ⟨⟨hw, rfl⟩, hshows, hshows'⟩ := hstep
      have hperform := hw.perform process operation
      simp only [run, hperform, Environment.shown, if_pos hshows, if_pos hshows']
      exact congrArg _ (ih _)

/-- A step whose world shows no messages writes nothing to the log. -/
theorem log_of_not_shows {steps : List (World × Operation)} {process : Process}
    {step : World × Operation} {r : Record} (h : (step, r) ∈ steps.zip (process.run steps))
    (hshows : ¬ step.1.env.showsMessages) : r.log = [] := by
  induction steps generalizing process with
  | nil => cases h
  | cons first steps ih =>
      obtain ⟨w, operation⟩ := first
      rcases List.mem_cons.mp h with heq | hrest
      · obtain ⟨rfl, rfl⟩ := Prod.mk.injEq .. |>.mp heq
        exact if_neg hshows
      · exact ih hrest

end Process

/-! ## Runs of the command -/

namespace Command

namespace Outcome

theorem ofReport_of_shows {env env' : Environment} (h : env.showsMessages)
    (h' : env'.showsMessages) (json : Bool) (attempt : Attempt Report) :
    ofReport env json attempt = ofReport env' json attempt := by
  simp only [ofReport, Environment.shown, if_pos h, if_pos h']

theorem errorOutput_ofReport {env : Environment} (h : ¬ env.showsMessages) (json : Bool)
    (attempt : Attempt Report) : (ofReport env json attempt).errorOutput = [] := by
  have hlog : env.shown attempt.messages = [] := if_neg h
  unfold ofReport
  rw [hlog]
  cases attempt.result with
  | error failure => rfl
  | ok report => rfl

end Outcome

theorem showsMessages_withMessages (w : World) : (withMessages w).env.showsMessages := by
  have hget : (withMessages w).env.get? debugVariable = some ("1" : Text) := by
    show (Dictionary.put debugVariable ("1" : Text) w.env).get? debugVariable = some ("1" : Text)
    rw [Dictionary.get?_put, if_pos rfl]
  rw [Environment.showsMessages, Environment.nonEmpty?, hget]
  rfl

theorem withMessages_withMessages (w : World) :
    withMessages (withMessages w) = withMessages w :=
  congrArg (fun env => { w with env }) (Dictionary.put_put w.env debugVariable "1" "1")

section Runs

variable {w w' : World}

/-- Switching messages on changes no report. -/
theorem report_reportWorld (w : World) (o : Options) :
    report (reportWorld w o) o = report w o := by
  unfold reportWorld
  split
  · exact ((World.sameButDebug_withMessages w).report o).symm
  · rfl

/-- The command comes to what becomes of the report, if one is tried. -/
theorem run_of_report {arguments : List Text} {o : Options}
    (hrequest : Request.ofArguments arguments = .ok (.report o)) (haccepted : refusal? w o = none) :
    run w arguments = .ofReport (reportWorld w o).env o.json (report w o) := by
  rw [run, hrequest]
  show runReport w o = _
  rw [runReport, haccepted, report_reportWorld]
  rfl

/-- A run is refused for the files or the options, or else it depends on the result of the
report. -/
theorem runReport_congr {o o' : Options} (hjson : o.json = o'.json)
    (hrefusal : refusal? w o = refusal? w' o')
    (hreport : refusal? w o = none → (report w o).result = (report w' o').result) :
    (runReport w o).output = (runReport w' o').output
      ∧ (runReport w o).ending = (runReport w' o').ending := by
  rw [runReport, runReport, ← hrefusal, report_reportWorld, report_reportWorld, ← hjson]
  cases hcase : refusal? w o with
  | some outcome => exact ⟨rfl, rfl⟩
  | none => exact Outcome.ofReport_congr _ _ _ (hreport hcase)

theorem refusal?_congr (h : w.files = w'.files) (o : Options) :
    refusal? w o = refusal? w' o := by
  unfold refusal? unreadableSettings?
  rw [h]

theorem runReport_sameButDebug (h : w.SameButDebug w') (o : Options) :
    (runReport w o).output = (runReport w' o).output
      ∧ (runReport w o).ending = (runReport w' o).ending :=
  runReport_congr rfl (refusal?_congr h.files o) fun _ => congrArg Attempt.result (h.report o)

theorem runReport_of_shows (h : w.SameButDebug w') (hshows : w.env.showsMessages)
    (hshows' : w'.env.showsMessages) (o : Options) : runReport w o = runReport w' o := by
  have hworld {v : World} (hv : v.env.showsMessages) : (reportWorld v o).env.showsMessages := by
    unfold reportWorld
    split
    · exact showsMessages_withMessages v
    · exact hv
  rw [runReport, runReport, refusal?_congr h.files, report_reportWorld, report_reportWorld,
    h.report, Outcome.ofReport_of_shows (hworld hshows) (hworld hshows')]

/-- A refusal is no usage error only if the settings file holds U+0000. -/
theorem refusal?_quiet {o : Options} {outcome : Outcome} (h : refusal? w o = some outcome) :
    outcome.errorOutput = [] ∨ ∃ e, outcome = .ofUsageError e := by
  unfold refusal? at h
  split at h
  · cases h
    exact .inl rfl
  · split at h
    · cases h
      exact .inr ⟨_, rfl⟩
    · split at h
      · cases h
      · cases h
        exact .inr ⟨_, rfl⟩

/-- To ask for messages on the command line is to ask for them in the environment. -/
theorem runReport_debug (w : World) (o : Options) :
    runReport w { o with debug := true } = runReport (withMessages w) o := by
  have hworld : reportWorld (withMessages w) o = withMessages w := by
    unfold reportWorld
    split
    · exact withMessages_withMessages w
    · rfl
  rw [runReport, runReport, hworld]
  rfl

theorem readArguments_debug (arguments : List Text) :
    readArguments (("-d" : Text) :: arguments)
      = (readArguments arguments).map (.switch .debug :: ·) :=
  readArguments_switch (by decide) (by decide) arguments

theorem ofItems_debug (items : List Item) :
    Request.ofItems (.switch .debug :: items)
      = (Request.ofItems items).mapOptions fun o => { o with debug := true } :=
  ofItems_mapOptions rfl rfl

theorem run_debug (w : World) (arguments : List Text) :
    run w (("-d" : Text) :: arguments) = run (withMessages w) arguments := by
  rw [run, run, Request.ofArguments, Request.ofArguments, readArguments_debug]
  cases readArguments arguments with
  | error e => rfl
  | ok items =>
      simp only [Except.map]
      rw [ofItems_debug]
      cases Request.ofItems items with
      | help | version => rfl
      | report o => exact runReport_debug w o

/-- Without messages nothing goes to the error output but the text of a usage error. -/
theorem errorOutput_run {w : World} (hshows : ¬ w.env.showsMessages) {arguments : List Text}
    (hdebug : ∀ o, Request.ofArguments arguments = .ok (.report o) → o.debug = false) :
    (run w arguments).errorOutput = [] ∨ ∃ e, run w arguments = .ofUsageError e := by
  unfold run
  cases hrequest : Request.ofArguments arguments with
  | error e => exact .inr ⟨e, rfl⟩
  | ok request =>
      cases request with
      | help | version => exact .inl rfl
      | report o =>
          show (runReport w o).errorOutput = [] ∨ ∃ e, runReport w o = .ofUsageError e
          rw [runReport]
          cases hrefusal : refusal? w o with
          | some outcome => exact refusal?_quiet hrefusal
          | none =>
              refine .inl ?_
              rw [reportWorld, hdebug o hrequest]
              exact Outcome.errorOutput_ofReport hshows ..

theorem run_sameButDebug (h : w.SameButDebug w') (arguments : List Text) :
    (run w arguments).output = (run w' arguments).output
      ∧ (run w arguments).ending = (run w' arguments).ending := by
  unfold run
  cases Request.ofArguments arguments with
  | error e => exact ⟨rfl, rfl⟩
  | ok request =>
      cases request with
      | help | version => exact ⟨rfl, rfl⟩
      | report o => exact runReport_sameButDebug h o

theorem run_of_shows (h : w.SameButDebug w') (hshows : w.env.showsMessages)
    (hshows' : w'.env.showsMessages) (arguments : List Text) :
    run w arguments = run w' arguments := by
  unfold run
  cases Request.ofArguments arguments with
  | error e => rfl
  | ok request =>
      cases request with
      | help | version => rfl
      | report o => exact runReport_of_shows h hshows hshows' o

end Runs

end Command

/-! ## The headline theorem -/

/-- What it means that debug messages do not interfere: runs in worlds that differ in their variable
at most leave the same behind, with no log where the variable is unset or empty and with the same
log where it is not. -/
structure DebugApart : Prop where
  operations : ∀ (process : Process) {steps steps' : List (World × Process.Operation)},
    List.Forall₂ Process.SameButDebug steps steps' →
      (process.run steps).map Process.Record.seen = (process.run steps').map Process.Record.seen
  operationsSilent : ∀ (process : Process) {steps : List (World × Process.Operation)} {step r},
    (step, r) ∈ steps.zip (process.run steps) → ¬ step.1.env.showsMessages → r.log = []
  operationsShown : ∀ (process : Process) {steps steps' : List (World × Process.Operation)},
    List.Forall₂ (fun step step' => Process.SameButDebug step step'
      ∧ step.1.env.showsMessages ∧ step'.1.env.showsMessages) steps steps' →
      process.run steps = process.run steps'
  command : ∀ {w w' : World}, w.SameButDebug w' → ∀ arguments,
    (Command.run w arguments).output = (Command.run w' arguments).output
      ∧ (Command.run w arguments).ending = (Command.run w' arguments).ending
  commandSilent : ∀ {w : World}, ¬ w.env.showsMessages → ∀ {arguments},
    (∀ o, Command.Request.ofArguments arguments = .ok (.report o) → o.debug = false) →
      (Command.run w arguments).errorOutput = []
        ∨ ∃ e, Command.run w arguments = .ofUsageError e
  commandShown : ∀ {w w' : World}, w.SameButDebug w' → w.env.showsMessages →
    w'.env.showsMessages → ∀ arguments, Command.run w arguments = Command.run w' arguments
  commandSwitch : ∀ (w : World) (arguments : List Text),
    Command.run w (("-d" : Text) :: arguments) = Command.run (Command.withMessages w) arguments

/-- **Debug messages do not interfere**, neither with a run of operations of the library nor with
the command, and to ask the command for them is to set their variable. -/
theorem debug_apart : DebugApart where
  operations process _ _ h := Process.map_seen_run h process
  operationsSilent _ _ _ _ h hshows := Process.log_of_not_shows h hshows
  operationsShown process _ _ h := Process.run_eq_of_shows h process
  command h arguments := Command.run_sameButDebug h arguments
  commandSilent hshows _ hdebug := Command.errorOutput_run hshows hdebug
  commandShown h hshows hshows' arguments := Command.run_of_shows h hshows hshows' arguments
  commandSwitch w arguments := Command.run_debug w arguments

end HostFacts
