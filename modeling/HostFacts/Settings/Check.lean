import HostFacts.Settings.Basic

/-!
# Settings from JSON

Which JSON values are settings. Unknown members are ignored, a missing one
has its default, and every member that is present must have a value of its
own kind: `null` is only for what can be unset.
-/

namespace HostFacts

def DataModel.check : Json → Verdict DataModel
  | .str t =>
    if !t.isWellFormed then .fail .notUnicode
    else if t = DataModel.bits32.text then .accept .bits32
    else if t = DataModel.bits64.text then .accept .bits64
    else .fail .notDataModel
  | _ => .fail .notDataModel

def Overrides.check : Json → Verdict Overrides
  | .obj members =>
    Overrides.mk
      <$> Verdict.member members "os_name" (pure none) (.optional .nameText)
      <*> Verdict.member members "os_version" (pure none) (.optional .nameText)
      <*> Verdict.member members "os_arch" (pure none) (.optional .text)
      <*> Verdict.member members "arch_data_model" (pure none) (.optional DataModel.check)
      <*> Verdict.member members "desktop" (pure none) (.optional .text)
  | _ => .fail (.notRecord "FactOverrides")

/-- What the settings record is called in messages. -/
def Settings.modelName : Text := "HostInfoConfig"

def Settings.check : Json → Verdict Settings
  | .obj members =>
    let unset : Settings := {}
    Settings.mk
      <$> Verdict.member members "os_release_path" (pure unset.releaseFile) .pathText
      <*> Verdict.member members "executable_dir" (pure unset.executableDirectory) .pathText
      <*> Verdict.member members "case_sensitive_fs" (pure none) (.optional .truthValue)
      <*> Verdict.member members "overrides" (pure {}) Overrides.check
  | _ => .fail (.notRecord Settings.modelName)

end HostFacts
