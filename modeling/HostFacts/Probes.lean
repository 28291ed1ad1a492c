import HostFacts.Once
import HostFacts.OsRelease
import HostFacts.Settings.Basic
import HostFacts.Snapshot.Flags
import HostFacts.World

/-!
# Probes

What takes a look at the file system to find out: the release file of a Unix
system, and whether certain executables are there. Each is looked at when it
is first asked for, and the answer, a failed look included, is kept. Where
nothing is drawn by X11 the file system is left alone: the release file has a
guard of its own, which comes to the same (`OsRelease.look_eq`).
-/

namespace HostFacts

/-! ## Single looks -/

/-- An executable that a desktop may bring along. -/
inductive DesktopTool
  | xdgOpen
  | xdgMime
deriving Repr, DecidableEq

namespace DesktopTool

def all : List DesktopTool := [xdgOpen, xdgMime]

def name : DesktopTool → Text
  | xdgOpen => "xdg-open"
  | xdgMime => "xdg-mime"

def ofName? (name : Text) : Option DesktopTool := all.find? (·.name = name)

/-- Whether the tool is in a directory. A path that the system does not take means no. -/
def lookFor (w : World) (directory : Path) (tool : DesktopTool) : Attempt Bool :=
  let path := directory.child tool.name
  match w.isExecutable path with
  | .ok found => do
    Attempt.info (path.text ++ " executable: " ++ (if found then ("True" : Text) else "False"))
    return found
  | .error failure => do
    Attempt.info ("Cannot probe " ++ path.text ++ ": " ++ failure.message)
    return false

end DesktopTool

/-- What the release file says. A file that cannot be read says nothing; it is only the path
that may be at fault. -/
def OsRelease.load (w : World) (path : Path) : Attempt (Dictionary Text) :=
  match w.readText path with
  | .ok t => do
    let entries := OsRelease.read t
    Attempt.info ("Read " ++ Numeral.ofNat entries.length ++ " entries from " ++ path.text)
    return entries
  | .error .embeddedNul => Attempt.fail .embeddedNul
  | .error failure => do
    Attempt.info ("Cannot read " ++ path.text ++ ": " ++ failure.message)
    return []

/-- What a look for the release file finds. A Unix has one, macOS apart. -/
def OsRelease.look (snapshot : Snapshot) (settings : Settings) (w : World) :
    Attempt (Dictionary Text) :=
  if !snapshot.isUnix || snapshot.isMac then pure []
  else OsRelease.load w (.ofText settings.releaseFile)

/-- These hosts are those where X11 draws the windows. -/
theorem OsRelease.look_eq (snapshot : Snapshot) (settings : Settings) (w : World) :
    look snapshot settings w
      = if snapshot.isXWindow then load w (.ofText settings.releaseFile) else pure [] := by
  unfold look Snapshot.isXWindow
  cases snapshot.isUnix <;> cases snapshot.isMac <;> rfl

/-! ## Probes with their answers -/

/-- The probes of a host, with what they found so far. -/
structure Probes where
  snapshot : Snapshot
  settings : Settings
  release : Once (Dictionary Text) := .unset
  xdgOpen : Once Bool := .unset
  xdgMime : Once Bool := .unset
deriving Repr, DecidableEq

namespace Probes

/-- The entries of the release file, none on a system that has no such file. -/
def osRelease (p : Probes) (w : World) : Attempt (Dictionary Text) × Probes :=
  let (entries, cell) := p.release.attempt (OsRelease.look p.snapshot p.settings w)
  (entries, { p with release := cell })

/-- One entry of the release file. -/
def releaseEntry (p : Probes) (w : World) (name : Text) : Attempt (Option Text) × Probes :=
  let (entries, p) := p.osRelease w
  ((Dictionary.get? · name) <$> entries, p)

def releaseName (p : Probes) (w : World) : Attempt (Option Text) × Probes :=
  p.releaseEntry w "NAME"

def releaseVersion (p : Probes) (w : World) : Attempt (Option Text) × Probes :=
  p.releaseEntry w "VERSION"

def releaseId (p : Probes) (w : World) : Attempt (Option Text) × Probes :=
  p.releaseEntry w "ID"

def cell (p : Probes) : DesktopTool → Once Bool
  | .xdgOpen => p.xdgOpen
  | .xdgMime => p.xdgMime

def withCell (p : Probes) (tool : DesktopTool) (cell : Once Bool) : Probes :=
  match tool with
  | .xdgOpen => { p with xdgOpen := cell }
  | .xdgMime => { p with xdgMime := cell }

theorem cell_withCell (p : Probes) (tool : DesktopTool) (c : Once Bool) :
    (p.withCell tool c).cell tool = c := by
  cases tool <;> rfl

theorem cell_withCell_of_ne (p : Probes) {tool other : DesktopTool} (h : other ≠ tool)
    (c : Once Bool) : (p.withCell other c).cell tool = p.cell tool := by
  cases tool <;> cases other <;> first | rfl | exact absurd rfl h

/-- Whether a tool is there. Without X11 none is, and nothing is looked at. -/
def hasTool (p : Probes) (w : World) (tool : DesktopTool) : Attempt Bool × Probes :=
  if p.snapshot.isXWindow then
    let directory := Path.ofText p.settings.executableDirectory
    let (found, cell) := (p.cell tool).attempt (tool.lookFor w directory)
    (found, p.withCell tool cell)
  else (pure false, p)

/-- A look for a tool changes the cells of the tools at most. -/
theorem hasTool_after (p : Probes) (w : World) (tool : DesktopTool) :
    (p.hasTool w tool).2 = { p with
      xdgOpen := (p.hasTool w tool).2.xdgOpen, xdgMime := (p.hasTool w tool).2.xdgMime } := by
  unfold hasTool
  split
  · cases tool <;> rfl
  · rfl

/-- Whether the tool of this name is there; a name that is not known is none. -/
def hasToolNamed (p : Probes) (w : World) (name : Text) : Attempt Bool × Probes :=
  match DesktopTool.ofName? name with
  | some tool => p.hasTool w tool
  | none =>
    (do
      Attempt.warn ("Unknown optional executable: " ++ name)
      return false, p)

end Probes

end HostFacts
