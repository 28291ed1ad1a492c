import HostFacts.Probes.Mappings
import HostFacts.Session

/-!
# Processes

All that a program can have the library do, operation by operation. A process
has one session, which its inquiries go to, and the probes that it made itself.
Each operation sees the world as it is at that moment and leaves behind its
result, the lines that it wrote to the log, and the process with its cells.
-/

namespace HostFacts

/-! ## Questions with their messages -/

/-- A call of the probes, with the messages that it gives. -/
def Probes.Call.attempt (p : Probes) (w : World) : Probes.Call → Attempt Probes.Answer × Probes
  | .osRelease => (.entries <$> (p.osRelease w).1, (p.osRelease w).2)
  | .releaseName => (.entry <$> (p.releaseName w).1, (p.releaseName w).2)
  | .releaseVersion => (.entry <$> (p.releaseVersion w).1, (p.releaseVersion w).2)
  | .releaseId => (.entry <$> (p.releaseId w).1, (p.releaseId w).2)
  | .hasToolNamed name => (.found <$> (p.hasToolNamed w name).1, (p.hasToolNamed w name).2)
  | .hasXdgOpen => (.found <$> (p.hasTool w .xdgOpen).1, (p.hasTool w .xdgOpen).2)
  | .hasXdgMime => (.found <$> (p.hasTool w .xdgMime).1, (p.hasTool w .xdgMime).2)

theorem Probes.Call.ask_eq_attempt (p : Probes) (w : World) (call : Probes.Call) :
    call.ask p w = ((call.attempt p w).1.result, (call.attempt p w).2) := by
  cases call <;> simp [ask, attempt]

namespace Process

/-- What a process can ask its session. -/
inductive Inquiry
  | getSnapshot
  | getProbes
  | isOsVersionAtLeast (version : Option Text)
  | isRuntimeVersionAtLeast (version : Option Text)
  /-- A call of the probes of the session. -/
  | ask (call : Probes.Call)
deriving Repr, DecidableEq

inductive Answer
  | done
  | settings (settings : Option Settings)
  | place (path : Path)
  | snapshot (snapshot : Snapshot)
  | probes (probes : Probes)
  | flag (b : Bool)
  | found (answer : Probes.Answer)
  /-- There are no probes of this number. -/
  | noProbes
deriving Repr, DecidableEq

def Inquiry.make (session : Session) (w : World) : Inquiry → Attempt Answer × Session
  | .getSnapshot => (.snapshot <$> (session.getSnapshot w).1, (session.getSnapshot w).2)
  | .getProbes => (.probes <$> (session.getProbes w).1, (session.getProbes w).2)
  | .isOsVersionAtLeast version =>
    (.flag <$> (session.isOsVersionAtLeast w version).1, (session.isOsVersionAtLeast w version).2)
  | .isRuntimeVersionAtLeast version =>
    (.flag <$> (session.isRuntimeVersionAtLeast w version).1,
      (session.isRuntimeVersionAtLeast w version).2)
  | .ask call =>
    let question (p : Probes) (w : World) := call.attempt p w
    (.found <$> (session.askProbes w question).1, (session.askProbes w question).2)

inductive Operation
  | say (level text : Text)
  | loadFile (path : Path)
  | loadText (text : Text)
  | locateSettings
  /-- The snapshot of the host, in an environment other than that of the process if one is given. -/
  | takeSnapshot (settings : Settings) (env : Option Environment)
  | makeProbes (snapshot : Snapshot) (settings : Settings)
  | askProbes (number : Nat) (call : Probes.Call)
  | inquire (inquiry : Inquiry)
deriving Repr, DecidableEq

end Process

/-! ## Runs -/

structure Process where
  session : Session := {}
  /-- The probes that were made, by their number. -/
  probes : List Probes := []
deriving Repr, DecidableEq

namespace Process

def perform (process : Process) (w : World) : Operation → Attempt Answer × Process
  | .say level text => ((fun _ => .done) <$> Attempt.say (.ofName level) text, process)
  | .loadFile path => (.settings <$> Settings.loadFile w path, process)
  | .loadText text => (.settings <$> Settings.loadText text, process)
  | .locateSettings => (.place <$> Attempt.ofExcept (Settings.defaultPath w), process)
  | .takeSnapshot settings env =>
    (.snapshot <$> Snapshot.detect w.host (env.getD w.env) settings, process)
  | .makeProbes snapshot settings =>
    (pure .done, { process with probes := process.probes ++ [{ snapshot, settings }] })
  | .askProbes number call =>
    match process.probes[number]? with
    | none => (pure .noProbes, process)
    | some p =>
      let (answer, after) := call.attempt p w
      (.found <$> answer, { process with probes := process.probes.set number after })
  | .inquire inquiry =>
    let (answer, session) := inquiry.make process.session w
    (answer, { process with session })

/-- What an operation leaves behind. -/
structure Record where
  result : Except Failure Answer
  log : List Text
  after : Process
deriving Repr

/-- What an operation leaves behind apart from the log. -/
def Record.seen (r : Record) : Except Failure Answer × Process := (r.result, r.after)

/-- Performs operations one after another, each in the world of its moment. -/
def run (process : Process) : List (World × Operation) → List Record
  | [] => []
  | (w, operation) :: steps =>
    let (answer, after) := process.perform w operation
    ⟨answer.result, w.env.shown answer.messages, after⟩ :: run after steps

end Process

end HostFacts
