import HostFacts.Command.Console
import HostFacts.Command.Report
import HostFacts.Command.Wording

/-!
# Running the command

From arguments to what is written and how the command ends: with an exit
status, or with a failure that it leaves to its caller.
-/

namespace HostFacts.Command

structure Outcome where
  output : Text
  errorOutput : Text
  ending : Except Failure Nat
deriving Repr

namespace Outcome

def ofUsageError (e : UsageError) : Outcome := ⟨[], plain e.report, .ok 2⟩

/-- What comes of an attempt at a report, in an environment that may show its messages. -/
def ofReport (env : Environment) (json : Bool) (attempt : Attempt Report) : Outcome :=
  let log := (env.shown attempt.messages).flatMap fun line => line ++ ("\n" : Text)
  match attempt.result with
  | .error failure => ⟨[], log, .error failure⟩
  | .ok report =>
    let (written, ending) := writeLines (report.lines json)
    ⟨written, log, ending.map fun _ => report.status⟩

end Outcome

/-- The world in which messages are shown. -/
def withMessages (w : World) : World :=
  { w with env := w.env.put debugVariable "1" }

/-- The settings file if it is there and may not be read. -/
def unreadableSettings? (w : World) (o : Options) : Option Text :=
  o.settingsFile.filter w.files.leadsToUnreadable

/-- Why no report is tried for the options, if none is. The settings file is looked at before the
operands, which the command has no use for. -/
def refusal? (w : World) (o : Options) : Option Outcome :=
  if o.settingsFile.any (·.contains (.scalar '\x00')) then some ⟨[], [], .error .embeddedNul⟩
  else
    match unreadableSettings? w o with
    | some file => some (.ofUsageError (.unreadableSettings file))
    | none =>
      if o.operands.isEmpty then none else some (.ofUsageError (.extraArguments o.operands))

/-- The world that the report is made in. -/
def reportWorld (w : World) (o : Options) : World := if o.debug then withMessages w else w

/-- Runs the report that the options ask for. -/
def runReport (w : World) (o : Options) : Outcome :=
  (refusal? w o).getD (.ofReport (reportWorld w o).env o.json (report (reportWorld w o) o))

/-- Runs the command. -/
def run (w : World) (arguments : List Text) : Outcome :=
  match Request.ofArguments arguments with
  | .error e => .ofUsageError e
  | .ok .help => ⟨helpText, [], .ok 0⟩
  | .ok .version => ⟨versionText, [], .ok 0⟩
  | .ok (.report o) => runReport w o

end HostFacts.Command
