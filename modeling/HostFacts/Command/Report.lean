import HostFacts.Command.Request
import HostFacts.Json.Writer
import HostFacts.Probes
import HostFacts.Settings.Loading
import HostFacts.Snapshot.Detection
import HostFacts.Snapshot.Facts

/-!
# Reports

What the command has to report: its answers by name, and the exit status. If
versions are to be reached the report is of these gates, and the status says
whether all are open; otherwise it is of the facts.
-/

namespace HostFacts.Command

structure Report where
  items : Dictionary Fact
  status : Nat
deriving Repr, DecidableEq

/-! ## The host -/

/-- Where the settings are, as it was written or else at the default place. -/
def settingsPlace (w : World) (settingsFile : Option Text) : Except Failure Text :=
  match settingsFile.filter (!·.isEmpty) with
  | some t => .ok t
  | none => (Settings.defaultPath w).map Path.text

/-- The settings of a file, or of the default place if none is given. The defaults stand in for
a file that has none. -/
def settingsFor (w : World) (settingsFile : Option Text) : Attempt Settings := do
  let place ← Attempt.ofExcept (settingsPlace w settingsFile)
  match ← Settings.loadFile w (.ofText place) with
  | some settings => return settings
  | none => do
    Attempt.info ("No config found at " ++ place ++ ", using default config")
    return {}

/-- The probes under the settings of a file, or of the default place if none is given. -/
def probesFor (w : World) (settingsFile : Option Text) : Attempt Probes := do
  let settings ← settingsFor w settingsFile
  let snapshot ← Snapshot.detect w.host w.env settings
  return { snapshot, settings }

/-! ## Gates -/

/-- The gates that are asked for, each once, and whether they are open. -/
def gates (s : Snapshot) (o : Options) : Except Numeral.TooLong (Dictionary Bool) := do
  let osGates ← o.osVersions.mapM fun v => do
    return (Text.ofString "os>=" ++ v, ← s.osVersionAtLeast (some v))
  let runtimeGates ← o.runtimeVersions.mapM fun v => do
    return (Text.ofString "runtime>=" ++ v, ← s.runtimeVersionAtLeast (some v))
  return .ofPairs (osGates ++ runtimeGates)

def Report.ofGates (gates : Dictionary Bool) : Report where
  items := gates.map fun (name, isOpen) => (name, .flag isOpen)
  status := if gates.all (·.2) then 0 else 1

/-! ## Facts -/

/-- What the probes add to the facts. -/
def releaseFacts (p : Probes) (w : World) : Attempt (Dictionary Fact) := do
  let (name, p) := p.releaseName w
  let (version, p) := p.releaseVersion w
  let (xdgOpen, p) := p.hasTool w .xdgOpen
  let (xdgMime, _) := p.hasTool w .xdgMime
  return [("unix_release_name", .ofText? (← name)),
    ("unix_release_version", .ofText? (← version)),
    ("has_xdg_open", .flag (← xdgOpen)),
    ("has_xdg_mime", .flag (← xdgMime))]

/-! ## The whole report -/

/-- The report that the options ask for, by probes that are at hand. -/
def reportOf (probes : Probes) (w : World) (o : Options) : Attempt Report := do
  if o.osVersions.isEmpty && o.runtimeVersions.isEmpty then
    let facts ← Attempt.ofExcept (probes.snapshot.facts.mapError .numeral)
    let more ← if o.release then releaseFacts probes w else pure []
    return ⟨facts ++ more, 0⟩
  else
    let gates ← Attempt.ofExcept ((gates probes.snapshot o).mapError .numeral)
    return .ofGates gates

def report (w : World) (o : Options) : Attempt Report := do
  reportOf (← probesFor w o.settingsFile) w o

/-- The lines of a report: one for each item, or one JSON object. -/
def Report.lines (r : Report) (json : Bool) : List Text :=
  if json then
    let members := r.items.map fun (name, fact) => (name, fact.json)
    [(Json.obj members).pretty]
  else r.items.map fun (name, fact) => name ++ ": " ++ fact.display

end HostFacts.Command
