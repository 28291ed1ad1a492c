import HostFacts.Failure
import HostFacts.MacVersion
import HostFacts.NamedRelease
import HostFacts.Snapshot.Basic
import HostFacts.Text.Case

/-!
# Flags

What a snapshot says of its host in yes and no. A system belongs to the
family that its name starts with, whatever the case of the letters; all that
is neither Windows nor OS/2 counts as Unix. The gates tell whether a version
has been reached. They alone can fail, on a numeral too long to be read, and
a gate of another family is closed without a look at the version.
-/

namespace HostFacts.Snapshot

/-! ## Families of systems -/

def isOfFamily (s : Snapshot) (starts : List Text) : Bool :=
  (Text.lower s.osName).startsWithAny starts

def isWindows (s : Snapshot) : Bool := s.isOfFamily ["windows"]

def isOs2 (s : Snapshot) : Bool := s.isOfFamily ["os/2", "os2"]

def isMac (s : Snapshot) : Bool := s.isOfFamily ["mac", "darwin"]

def isLinux (s : Snapshot) : Bool := s.isOfFamily ["linux"]

def isFreebsd (s : Snapshot) : Bool := s.isOfFamily ["freebsd"]

def isSolaris (s : Snapshot) : Bool := s.isOfFamily ["sunos", "solaris"]

def isUnix (s : Snapshot) : Bool := !s.isWindows && !s.isOs2

/-- Windows are drawn by X11: on every Unix but macOS. -/
def isXWindow (s : Snapshot) : Bool := s.isUnix && !s.isMac

/-! ## The language runtime -/

def runtimeMentions (s : Snapshot) (name : Text) : Bool :=
  Text.occursIn name (Text.lower s.runtimeName)

def vendorMentions (s : Snapshot) (name : Text) : Bool :=
  Text.occursIn name (Text.lower s.runtimeVendor)

def isCpython (s : Snapshot) : Bool := s.runtimeMentions "cpython"

def isPypy (s : Snapshot) : Bool := s.runtimeMentions "pypy"

def isGraalpy (s : Snapshot) : Bool := s.runtimeMentions "graal"

def isIronpython (s : Snapshot) : Bool := s.runtimeMentions "ironpython"

def isJython (s : Snapshot) : Bool := s.runtimeMentions "jython"

def isCondaRuntime (s : Snapshot) : Bool := s.vendorMentions "conda"

def isAppleRuntime (s : Snapshot) : Bool := s.vendorMentions "apple"

/-! ## Desktop, architecture and file system -/

def isKde (s : Snapshot) : Bool := !s.kdeFullSession.isEmpty

def isWsl (s : Snapshot) : Bool := s.wslVersion.isSome

/-- A pointer of unknown width counts as one of 32 bits. -/
def is32Bit (s : Snapshot) : Bool := s.dataModel = none || s.dataModel = some "32"

def is64Bit (s : Snapshot) : Bool := !s.is32Bit

def isMacIntel64 (s : Snapshot) : Bool := s.isMac && s.osArch = "x86_64"

def isMacArm64 (s : Snapshot) : Bool := s.isMac && s.osArch = "arm64"

def isMacSystemMenu (s : Snapshot) : Bool := s.isMac && s.screenMenuBar

def isFileSystemCaseSensitive (s : Snapshot) : Bool :=
  s.caseSensitive.getD (s.isUnix && !s.isMac)

/-! ## Version gates -/

def osVersionAtLeast (s : Snapshot) (version : Option Text) : Except Numeral.TooLong Bool :=
  Version.atLeast (some s.osVersion) version

def runtimeVersionAtLeast (s : Snapshot) (version : Option Text) :
    Except Numeral.TooLong Bool :=
  Version.atLeast (some s.runtimeVersion) version

def windowsAtLeast (s : Snapshot) (release : WindowsRelease) : Except Numeral.TooLong Bool :=
  if s.isWindows then s.osVersionAtLeast release.version else .ok false

def macAtLeast (s : Snapshot) (release : MacRelease) : Except Numeral.TooLong Bool :=
  if s.isMac then s.osVersionAtLeast release.version else .ok false

/-- The gate of a release by name. Off Windows the name is not even looked at. -/
def windowsAtLeastNamed (s : Snapshot) (name : Text) : Except Failure Bool :=
  if s.isWindows then
    match WindowsRelease.ofName? name with
    | some release => (s.windowsAtLeast release).mapError .numeral
    | none => .error (.unknownRelease name)
  else .ok false

/-- The gate of a release by name. Off macOS the name is not even looked at. -/
def macAtLeastNamed (s : Snapshot) (name : Text) : Except Failure Bool :=
  if s.isMac then
    match MacRelease.ofName? name with
    | some release => (s.macAtLeast release).mapError .numeral
    | none => .error (.unknownRelease name)
  else .ok false

/-- Windows has symbolic links since Vista. -/
def supportsSymlinks (s : Snapshot) : Except Numeral.TooLong Bool :=
  if s.isUnix then .ok true else s.windowsAtLeast .vista

/-- The version as macOS counts. -/
def macVersion (s : Snapshot) : Except Numeral.TooLong MacVersion :=
  MacVersion.ofText s.osVersion

end HostFacts.Snapshot
