import HostFacts.Probes

/-!
# Probes and the mappings that they hand out

The entries of the release file are handed out as a mapping, and whoever gets
a mapping may change it. So mappings are objects here, numbered as they are
made: the cell of the release file holds the number of one, and each time the
entries are asked for a new one is made with the same content and handed out.

A run of the probes is a sequence of steps. A step is a call, a change of the
world, or a change of a mapping that has been handed out.
-/

namespace HostFacts.Probes

/-! ## Calls -/

inductive Call
  | osRelease
  | releaseName
  | releaseVersion
  | releaseId
  | hasToolNamed (name : Text)
  | hasXdgOpen
  | hasXdgMime
deriving Repr, DecidableEq

inductive Answer
  | entries (content : Dictionary Text)
  | entry (value : Option Text)
  | found (b : Bool)
deriving Repr, DecidableEq

/-- A call where mappings are values, which nobody can change. -/
def Call.ask (p : Probes) (w : World) : Call → Except Failure Answer × Probes
  | .osRelease => ((p.osRelease w).1.result.map .entries, (p.osRelease w).2)
  | .releaseName => ((p.releaseName w).1.result.map .entry, (p.releaseName w).2)
  | .releaseVersion => ((p.releaseVersion w).1.result.map .entry, (p.releaseVersion w).2)
  | .releaseId => ((p.releaseId w).1.result.map .entry, (p.releaseId w).2)
  | .hasToolNamed name =>
    ((p.hasToolNamed w name).1.result.map .found, (p.hasToolNamed w name).2)
  | .hasXdgOpen => ((p.hasTool w .xdgOpen).1.result.map .found, (p.hasTool w .xdgOpen).2)
  | .hasXdgMime => ((p.hasTool w .xdgMime).1.result.map .found, (p.hasTool w .xdgMime).2)

/-- What the first look at the release file finds. -/
def lookForRelease (snapshot : Snapshot) (settings : Settings) (w : World) :
    Except Failure (Dictionary Text) :=
  (OsRelease.look snapshot settings w).result

/-! ## Probes with mappings as objects -/

structure Stored where
  snapshot : Snapshot
  settings : Settings
  /-- The cell of the release file, with the number of a mapping. -/
  release : Once Nat := .unset
  xdgOpen : Once Bool := .unset
  xdgMime : Once Bool := .unset
  /-- The content of all mappings, as it is now. -/
  mappings : List (Dictionary Text) := []
  /-- The numbers of those that have been handed out. -/
  lent : List Nat := []
deriving Repr, DecidableEq

namespace Stored

def content (s : Stored) (number : Nat) : Dictionary Text := s.mappings.getD number []

/-- The probes with the content of the mapping in place of its number. -/
def view (s : Stored) : Probes :=
  { snapshot := s.snapshot
    settings := s.settings
    release := s.release.map s.content
    xdgOpen := s.xdgOpen
    xdgMime := s.xdgMime }

/-- The number of the mapping in the cell, which is made if there is none. -/
def cached (s : Stored) (w : World) : Except Failure Nat × Stored :=
  match s.release with
  | .set number => (.ok number, s)
  | .unset =>
    match lookForRelease s.snapshot s.settings w with
    | .error failure => (.error failure, s)
    | .ok entries =>
      (.ok s.mappings.length,
        { s with release := .set s.mappings.length, mappings := s.mappings ++ [entries] })

/-- Hands out a mapping with the content of this one. -/
def lend (s : Stored) (number : Nat) : Stored :=
  { s with mappings := s.mappings ++ [s.content number], lent := s.lent ++ [s.mappings.length] }

def osRelease (s : Stored) (w : World) : Except Failure Answer × Stored :=
  match s.cached w with
  | (.error failure, s) => (.error failure, s)
  | (.ok number, s) => (.ok (.entries (s.content number)), s.lend number)

def releaseEntry (s : Stored) (w : World) (name : Text) : Except Failure Answer × Stored :=
  match s.cached w with
  | (.error failure, s) => (.error failure, s)
  | (.ok number, s) => (.ok (.entry ((s.content number).get? name)), s)

/-- A call about a tool, which has nothing to do with mappings. -/
def askForTool (s : Stored) (w : World) (call : Call) : Except Failure Answer × Stored :=
  let (result, p) := call.ask s.view w
  (result, { s with xdgOpen := p.xdgOpen, xdgMime := p.xdgMime })

def call (s : Stored) (w : World) : Call → Except Failure Answer × Stored
  | .osRelease => s.osRelease w
  | .releaseName => s.releaseEntry w "NAME"
  | .releaseVersion => s.releaseEntry w "VERSION"
  | .releaseId => s.releaseEntry w "ID"
  | .hasToolNamed name => s.askForTool w (.hasToolNamed name)
  | .hasXdgOpen => s.askForTool w .hasXdgOpen
  | .hasXdgMime => s.askForTool w .hasXdgMime

/-- The mapping that was handed out at this place in the order gets another content. -/
def tamper (s : Stored) (place : Nat) (content : Dictionary Text) : Stored :=
  match s.lent[place]? with
  | none => s
  | some number => { s with mappings := s.mappings.set number content }

end Stored

/-! ## Runs -/

inductive Step
  | call (call : Call)
  | change (world : World)
  | tamper (place : Nat) (content : Dictionary Text)
deriving Repr, DecidableEq

/-- A call with the world that it was made in and what it came to. -/
structure Record where
  world : World
  call : Call
  result : Except Failure Answer
deriving Repr

structure Run where
  world : World
  stored : Stored
  records : List Record := []
deriving Repr

namespace Run

def start (snapshot : Snapshot) (settings : Settings) (w : World) : Run :=
  { world := w, stored := { snapshot, settings } }

def next (r : Run) : Step → Run
  | .call call =>
    { r with
      stored := (r.stored.call r.world call).2
      records := r.records ++ [⟨r.world, call, (r.stored.call r.world call).1⟩] }
  | .change world => { r with world }
  | .tamper place content => { r with stored := r.stored.tamper place content }

def follow (r : Run) (steps : List Step) : Run := steps.foldl next r

end Run

end HostFacts.Probes
