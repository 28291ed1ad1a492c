import HostFacts.Verdict

/-!
# Snapshots

A snapshot is what was found out about a host at one moment. All that is
said about the host later is derived from it, and it never changes.
-/

namespace HostFacts

structure Snapshot where
  osName : Text
  osVersion : Text := []
  osArch : Text := []
  /-- The language runtime: its name, its version, and who built it. -/
  runtimeName : Text := []
  runtimeVersion : Text := []
  runtimeVendor : Text := []
  /-- The width of a pointer in bits, if it is known. -/
  dataModel : Option Text := none
  desktop : Text := []
  /-- The mark that a full KDE session leaves in the environment. -/
  kdeFullSession : Text := []
  /-- Whether windows put their menus into the bar of the screen. -/
  screenMenuBar : Bool := false
  /-- Whether file names are case sensitive, if the settings say. -/
  caseSensitive : Option Bool := none
  /-- The version of the Windows subsystem for Linux, if the host runs in it. -/
  wslVersion : Option Text := none
deriving Repr, DecidableEq

namespace Snapshot

/-- What the snapshot record is called in messages. -/
def modelName : Text := "SystemInfo"

/-- The snapshot that a JSON object describes. Only the name of the system has no default. -/
def check : Json → Verdict Snapshot
  | .obj members =>
    Snapshot.mk
      <$> Verdict.member members "os_name" (.fail .missing) .text
      <*> Verdict.member members "os_version" (pure []) .text
      <*> Verdict.member members "os_arch" (pure []) .text
      <*> Verdict.member members "runtime_name" (pure []) .text
      <*> Verdict.member members "runtime_version" (pure []) .text
      <*> Verdict.member members "runtime_vendor" (pure []) .text
      <*> Verdict.member members "arch_data_model" (pure none) (.optional .text)
      <*> Verdict.member members "desktop" (pure []) .text
      <*> Verdict.member members "kde_full_session" (pure []) .text
      <*> Verdict.member members "screen_menu_bar" (pure false) .truthValue
      <*> Verdict.member members "case_sensitive_fs_override" (pure none)
        (.optional .truthValue)
      <*> Verdict.member members "wsl_version" (pure none) (.optional .text)
  | _ => .fail (.notRecord modelName)

/-- Why a field cannot be set: no field can. -/
def assign (_ : Snapshot) (field : Text) : Violation := ⟨[field], .frozen⟩

end Snapshot

end HostFacts
