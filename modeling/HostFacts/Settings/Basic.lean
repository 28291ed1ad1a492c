import HostFacts.Verdict

/-!
# Settings

What a user may set: where to look for the release file and the optional
executables, whether file names are case sensitive, and facts to report in
place of the detected ones. Every setting has a default.
-/

namespace HostFacts

/-- The width of a pointer. -/
inductive DataModel
  | bits32
  | bits64
deriving Repr, DecidableEq

def DataModel.text : DataModel → Text
  | bits32 => "32"
  | bits64 => "64"

/-- Facts to report in place of the detected ones. -/
structure Overrides where
  osName : Option Text := none
  osVersion : Option Text := none
  osArch : Option Text := none
  dataModel : Option DataModel := none
  desktop : Option Text := none
deriving Repr, DecidableEq

structure Settings where
  /-- The file that describes the release of a Unix system. -/
  releaseFile : Text := "/etc/os-release"
  /-- The directory in which optional executables are looked for. -/
  executableDirectory : Text := "/usr/bin"
  /-- Whether file names are case sensitive, if that is not left to the system. -/
  caseSensitive : Option Bool := none
  overrides : Overrides := {}
deriving Repr, DecidableEq

namespace Overrides

/-- The overrides that are set, by the names of the facts and in their order. -/
def pairs (o : Overrides) : Dictionary Text :=
  [("os_name", o.osName), ("os_version", o.osVersion), ("os_arch", o.osArch),
   ("arch_data_model", o.dataModel.map DataModel.text), ("desktop", o.desktop)].filterMap
    fun (name, value) => value.map fun v => (name, v)

end Overrides

end HostFacts
