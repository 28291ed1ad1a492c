import HostFacts.Host
import HostFacts.Snapshot.Basic

/-!
# Taking a snapshot

A snapshot of the host that a program runs on, with the facts that the
settings replace. What was replaced is told in a message.
-/

namespace HostFacts

/-- Pairs in braces, names and values quoted. -/
def Dictionary.quoted (pairs : Dictionary Text) : Text :=
  "\x7b" ++ Text.join ", " (pairs.map fun (name, value) => name.quoted ++ ": " ++ value.quoted) ++
    "\x7d"

namespace Snapshot

/-- The snapshot with the facts that are overridden. -/
def override (s : Snapshot) (o : Overrides) : Snapshot :=
  { s with
    osName := o.osName.getD s.osName
    osVersion := o.osVersion.getD s.osVersion
    osArch := o.osArch.getD s.osArch
    dataModel := (o.dataModel.map DataModel.text) <|> s.dataModel
    desktop := o.desktop.getD s.desktop }

/-- What the host itself and the environment say. -/
def observe (host : HostRecord) (env : Environment) (caseSensitive : Option Bool) :
    Except Failure Snapshot := do
  return {
    osName := host.osName
    osVersion := host.osVersion
    osArch := host.osArch
    runtimeName := host.runtimeName
    runtimeVersion := host.runtimeVersion
    runtimeVendor := host.runtimeVendor
    dataModel := host.dataModel.map DataModel.text
    desktop := env.desktop
    kdeFullSession := (env.get? "KDE_FULL_SESSION").getD []
    screenMenuBar := env.get? "APPLE_LAF_USE_SCREEN_MENU_BAR" = some "true"
    caseSensitive := caseSensitive
    wslVersion := ← host.wslVersion }

/-- The snapshot of a host under settings. -/
def detect (host : HostRecord) (env : Environment) (settings : Settings) :
    Attempt Snapshot := do
  let observed ← Attempt.ofExcept (observe host env settings.caseSensitive)
  let overridden := settings.overrides.pairs
  if !overridden.isEmpty then
    Attempt.info ("Applying fact overrides: " ++ overridden.quoted)
  return observed.override settings.overrides

end Snapshot

end HostFacts
