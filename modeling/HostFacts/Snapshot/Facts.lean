import HostFacts.Snapshot.Flags

/-!
# Facts

What a snapshot has to tell, under the names that users know. `facts` is the
list for display: the identity of the host, the flags, and a gate for each
named release. `property?` answers for one name alone.
-/

namespace HostFacts

/-- The value of a fact; `absent` is for what could not be found out. -/
inductive Fact
  | text (t : Text)
  | flag (b : Bool)
  | absent
deriving Repr, DecidableEq

namespace Fact

def ofText? : Option Text → Fact
  | some t => text t
  | none => absent

def ofFlag? : Option Bool → Fact
  | some b => flag b
  | none => absent

def display : Fact → Text
  | text t => t
  | flag true => "true"
  | flag false => "false"
  | absent => []

def json : Fact → Json
  | text t => .str t
  | flag b => .bool b
  | absent => .null

end Fact

namespace Snapshot

/-! ## Fields -/

/-- All fields of the snapshot. -/
def fields (s : Snapshot) : Dictionary Fact :=
  [("os_name", .text s.osName),
   ("os_version", .text s.osVersion),
   ("os_arch", .text s.osArch),
   ("runtime_name", .text s.runtimeName),
   ("runtime_version", .text s.runtimeVersion),
   ("runtime_vendor", .text s.runtimeVendor),
   ("arch_data_model", .ofText? s.dataModel),
   ("desktop", .text s.desktop),
   ("kde_full_session", .text s.kdeFullSession),
   ("screen_menu_bar", .flag s.screenMenuBar),
   ("case_sensitive_fs_override", .ofFlag? s.caseSensitive),
   ("wsl_version", .ofText? s.wslVersion)]

/-- The fields that tell who the host is. -/
def identity (s : Snapshot) : Dictionary Fact :=
  [("os_name", .text s.osName),
   ("os_version", .text s.osVersion),
   ("os_arch", .text s.osArch),
   ("runtime_name", .text s.runtimeName),
   ("runtime_version", .text s.runtimeVersion),
   ("runtime_vendor", .text s.runtimeVendor),
   ("arch_data_model", .ofText? s.dataModel),
   ("desktop", .text s.desktop),
   ("wsl_version", .ofText? s.wslVersion)]

/-! ## Flags by name -/

abbrev Gate := Except Numeral.TooLong Bool

def flags (s : Snapshot) : Dictionary Gate :=
  [("is_windows", pure s.isWindows),
   ("is_mac", pure s.isMac),
   ("is_linux", pure s.isLinux),
   ("is_freebsd", pure s.isFreebsd),
   ("is_solaris", pure s.isSolaris),
   ("is_os2", pure s.isOs2),
   ("is_unix", pure s.isUnix),
   ("is_cpython", pure s.isCpython),
   ("is_pypy", pure s.isPypy),
   ("is_graalpy", pure s.isGraalpy),
   ("is_ironpython", pure s.isIronpython),
   ("is_jython", pure s.isJython),
   ("is_conda_runtime", pure s.isCondaRuntime),
   ("is_apple_runtime", pure s.isAppleRuntime),
   ("is_xwindow", pure s.isXWindow),
   ("is_kde", pure s.isKde),
   ("is_wsl", pure s.isWsl),
   ("is_32bit", pure s.is32Bit),
   ("is_64bit", pure s.is64Bit),
   ("is_mac_intel64", pure s.isMacIntel64),
   ("is_mac_arm64", pure s.isMacArm64),
   ("is_mac_system_menu", pure s.isMacSystemMenu),
   ("is_file_system_case_sensitive", pure s.isFileSystemCaseSensitive),
   ("are_symlinks_supported", s.supportsSymlinks)]

/-- The gates of the named releases, under names made from theirs. -/
def ladders (s : Snapshot) : Dictionary Gate :=
  let windowsName (r : WindowsRelease) : Text := "is_" ++ r.name ++ "_or_newer"
  let macName (r : MacRelease) : Text := "is_macos_" ++ r.name
  WindowsRelease.all.map (fun r => (windowsName r, s.windowsAtLeast r)) ++
    MacRelease.all.map fun r => (macName r, s.macAtLeast r)

/-- The facts for display, in their order. -/
def facts (s : Snapshot) : Except Numeral.TooLong (Dictionary Fact) := do
  let gates ← (s.flags ++ s.ladders).mapM fun (name, gate) => do
    return (name, Fact.flag (← gate))
  return s.identity ++ gates

/-! ## Properties by name -/

/-- The gates of the named releases, each under a name of its own. -/
def releaseGate? (s : Snapshot) (name : Text) : Option Gate :=
  let table : Dictionary Gate :=
    [("is_win2k_or_newer", s.windowsAtLeast .win2k),
     ("is_winxp_or_newer", s.windowsAtLeast .winxp),
     ("is_win_vista_or_newer", s.windowsAtLeast .vista),
     ("is_win7_or_newer", s.windowsAtLeast .win7),
     ("is_win8_or_newer", s.windowsAtLeast .win8),
     ("is_win10_or_newer", s.windowsAtLeast .win10),
     ("is_macos_tiger", s.macAtLeast .tiger),
     ("is_macos_leopard", s.macAtLeast .leopard),
     ("is_macos_snow_leopard", s.macAtLeast .snowLeopard),
     ("is_macos_lion", s.macAtLeast .lion),
     ("is_macos_mountain_lion", s.macAtLeast .mountainLion),
     ("is_macos_mavericks", s.macAtLeast .mavericks),
     ("is_macos_yosemite", s.macAtLeast .yosemite),
     ("is_macos_el_capitan", s.macAtLeast .elCapitan),
     ("is_macos_sierra", s.macAtLeast .sierra),
     ("is_macos_high_sierra", s.macAtLeast .highSierra),
     ("is_macos_mojave", s.macAtLeast .mojave),
     ("is_macos_catalina", s.macAtLeast .catalina),
     ("is_macos_big_sur", s.macAtLeast .bigSur),
     ("is_macos_monterey", s.macAtLeast .monterey),
     ("is_macos_ventura", s.macAtLeast .ventura),
     ("is_macos_sonoma", s.macAtLeast .sonoma),
     ("is_macos_sequoia", s.macAtLeast .sequoia)]
  table.get? name

/-- The value of a field, flag or gate of this name. -/
def property? (s : Snapshot) (name : Text) : Option (Except Numeral.TooLong Fact) :=
  (s.fields.get? name).map .ok <|>
    ((s.flags.get? name) <|> s.releaseGate? name).map (·.map .flag)

end Snapshot

end HostFacts
