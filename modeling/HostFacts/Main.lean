import HostFacts.Command.Run

/-!
# The program

Gathers what a run of the command can see of the system, runs the command on
it, and writes what comes of that. Only here is anything read or written.

What is gathered is short of the system in one point: the permission to execute
a file cannot be looked up from here. So a file that has the name of a tool
counts as one that may be executed, and where it may not the program finds a
tool that `Command.run`, in the world as it is, does not find.
-/

namespace HostFacts.Program

/-! ## Looking around -/

/-- The environment variables that count. -/
def variableNames : List String :=
  ["HOME", "HOSTINFO_SETTINGS", "HOSTINFO_DEBUG", "XDG_CURRENT_DESKTOP", "DESKTOP_SESSION",
   "KDE_FULL_SESSION", "APPLE_LAF_USE_SCREEN_MENU_BAR"]

def environment : IO Environment :=
  variableNames.filterMapM fun name => do
    return (← IO.getEnv name).map fun value => (name, value)

def bytes? (path : String) : IO (Option (List UInt8)) := do
  match ← (IO.FS.readBinFile path).toBaseIO with
  | .ok bytes => return some bytes.toList
  | .error _ => return none

/-- A parameter of the kernel, empty if there is none of the name. -/
def kernelParameter (name : String) : IO Text := do
  match ← bytes? ("/proc/sys/kernel/" ++ name) with
  | some bytes => return ((Utf8.decode bytes).toOption.getD []).trim
  | none => return []

/-- The host as its kernel knows it. There is no other language runtime to tell of. -/
def host : IO HostRecord := do
  return {
    system := ← kernelParameter "ostype"
    release := ← kernelParameter "osrelease"
    version := ← kernelParameter "version"
    macVersion := []
    machine := ← kernelParameter "arch"
    runtimeName := []
    runtimeVersion := []
    runtimeBanner := []
    pointerSize := some (if USize.size = 0x10000000000000000 then 8 else 4)
    kernelVersion := ← bytes? "/proc/version" }

def filePath (p : Path) := System.mkFilePath [p.text.toString]

/-- Whether the permission is missing to look for a path. -/
def isShut (p : Path) : IO Bool := do
  match ← (filePath p).metadata.toBaseIO with
  | .error (.permissionDenied ..) => return true
  | _ => return false

/-- The directory on the way of a path in which nothing may be looked for. -/
def shutDirectory? (p : Path) : IO (Option Path) := do
  if !(← isShut p) then return none
  let above := (List.range p.parts.length).reverse.map fun n => { p with parts := p.parts.take n }
  above.findM? fun directory => return !(← isShut directory)

/-- The world with what the system has at a path. Whether a file may be executed is not known
from the system. -/
def see (executable : Bool) (w : World) (p : Path) : IO World := do
  if p.hasNul then return w
  match ← bytes? p.text.toString with
  | some bytes => return { w with files := w.files.put p (.file bytes executable) }
  | none =>
    if ← (filePath p).isDir then
      let readable := (← (filePath p).readDir.toBaseIO).toOption.isSome
      return { w with files := w.files.put p (.directory true readable) }
    if ← (filePath p).pathExists then
      return { w with files := w.files.put p (.file [] executable false) }
    match ← shutDirectory? p with
    | some directory => return { w with files := w.files.put directory (.directory false) }
    | none => return w

/-- The world without any file but the working directory. -/
def emptyWorld : IO World := do
  let here := Path.ofText (← IO.currentDir).toString
  let files : FileTree := ⟨[], here.parts⟩
  return {
    env := ← environment
    host := ← host
    files := files.put here .directory
    accounts := ⟨none, []⟩ }

/-- The world with the files that the arguments and the settings lead to. The tools are taken to be
executable. -/
def world (arguments : List Text) : IO World := do
  let w ← emptyWorld
  let .ok (.report o) := Command.Request.ofArguments arguments | return w
  let place := do w.expandHome (.ofText (← Command.settingsPlace w o.settingsFile))
  let .ok place := place | return w
  let w ← see false w place
  let settings := ((Settings.ofFile w place).toOption.bind id).getD {}
  let w ← see false w (.ofText settings.releaseFile)
  let directory := Path.ofText settings.executableDirectory
  DesktopTool.all.foldlM (fun w tool => see true w (directory.child tool.name)) w

/-! ## Running -/

def run (arguments : List Text) : IO UInt32 := do
  let outcome := Command.run (← world arguments) arguments
  let output ← IO.getStdout
  let errorOutput ← IO.getStderr
  output.putStr outcome.output.toString
  output.flush
  errorOutput.putStr outcome.errorOutput.toString
  match outcome.ending with
  | .ok status => return status.toUInt32
  | .error failure =>
    errorOutput.putStrLn failure.message.toString
    return 1

end HostFacts.Program

def main (arguments : List String) : IO UInt32 :=
  HostFacts.Program.run (arguments.map HostFacts.Text.ofString)
