import HostFacts.Text.Blank
import HostFacts.Text.Case
import HostFacts.Settings.Basic
import HostFacts.Version
import HostFacts.World

/-!
# Reading the host

The facts about a host as its record gives them. macOS goes by its product
version and not by that of its kernel, Windows by the first two segments of
its version; those are what version gates compare with.
-/

namespace HostFacts

inductive Platform
  | macos
  | linux
  | windows
  | unknown
deriving Repr, DecidableEq

def Platform.text : Platform → Text
  | macos => "macos"
  | linux => "linux"
  | windows => "windows"
  | unknown => "unknown"

/-- The platform of a system, whose name may be written in any case. -/
def Platform.ofSystem (name : Text) : Platform :=
  let name := Text.lower name
  if name = "darwin" then .macos
  else if name = "linux" then .linux
  else if name = "windows" then .windows
  else .unknown

namespace HostRecord

/-! ## The system -/

def platform (host : HostRecord) : Platform := .ofSystem host.system

def osName (host : HostRecord) : Text := host.system

/-- The first two segments of a version, if there are two. -/
def firstTwo? (version : Text) : Option Text :=
  match Text.split Version.dot version with
  | major :: minor :: _ => some (major ++ Version.dot :: minor)
  | _ => none

def osVersion (host : HostRecord) : Text :=
  match host.platform with
  | .macos => if host.macVersion.isEmpty then host.release else host.macVersion
  | .windows => (firstTwo? host.version).getD host.release
  | .linux | .unknown => host.release

def osArch (host : HostRecord) : Text := host.machine

def dataModel (host : HostRecord) : Option DataModel :=
  match host.pointerSize with
  | some 4 => some .bits32
  | some 8 => some .bits64
  | _ => none

/-! ## The language runtime -/

/-- What the runtime says about its build: its announcement without the version in front. -/
def runtimeVendor (host : HostRecord) : Text :=
  ((Text.cut (.scalar ' ') host.runtimeBanner).2.getD []).trim

/-! ## The Windows subsystem for Linux -/

/-- The version of the subsystem that a kernel's version text tells of. -/
def subsystemVersion? (kernel : Text) : Option Text :=
  let kernel := Text.lower kernel
  if !Text.occursIn "microsoft" kernel then none
  else if Text.occursIn "wsl2" kernel || Text.occursIn "microsoft-standard" kernel then
    some "2"
  else some "1"

/-- The version of the subsystem that the host runs in; nothing if it runs in none. -/
def wslVersion (host : HostRecord) : Except Failure (Option Text) :=
  match host.platform, host.kernelVersion with
  | .linux, some bytes =>
    match Utf8.decode bytes with
    | .ok kernel => .ok (subsystemVersion? kernel)
    | .error fault => .error (.undecodable fault)
  | _, _ => .ok none

end HostRecord

/-- The name of the desktop session, empty if there is none. -/
def Environment.desktop (env : Environment) : Text :=
  ((env.nonEmpty? "XDG_CURRENT_DESKTOP") <|> (env.nonEmpty? "DESKTOP_SESSION")).getD []

end HostFacts
