import HostFacts.Session

/-!
# Threads in one session

Several threads may ask for the snapshot or the probes of a session at the
same time, and the world may change between any two of their steps. One
variable holds the snapshot and another the probes, as soon as there are any.
A thread that finds no probes takes the lock and looks again. If there are
still none it makes an attempt to start; if that succeeds it fills the
variable of the snapshot, makes probes for what it reads there, and fills the
variable of the probes. With or without the lock, it reads the variable that
its call is about only after that.

Every look at a variable, every write to one, each taking and giving back of
the lock, and each attempt is one step. Objects are numbered as they are
made, and what a variable holds is the number of an object.
-/

namespace HostFacts.Session

/-! ## Calls -/

inductive SnapshotQuestion
  | osVersionAtLeast (version : Option Text)
  | runtimeVersionAtLeast (version : Option Text)
deriving Repr, DecidableEq

inductive ProbesQuestion
  | releaseName
  | releaseVersion
  | hasXdgOpen
  | hasXdgMime
deriving Repr, DecidableEq

/-- What a thread asks the session for: one of its two objects, or the answer of one. -/
inductive Call
  | getSnapshot
  | getProbes
  | askSnapshot (question : SnapshotQuestion)
  | askProbes (question : ProbesQuestion)
deriving Repr, DecidableEq

inductive Answer
  | object
  | flag (b : Bool)
  | entry (value : Option Text)
deriving Repr, DecidableEq

def SnapshotQuestion.ask (s : Snapshot) : SnapshotQuestion → Except Failure Answer
  | osVersionAtLeast version => ((s.osVersionAtLeast version).mapError .numeral).map .flag
  | runtimeVersionAtLeast version =>
    ((s.runtimeVersionAtLeast version).mapError .numeral).map .flag

def ProbesQuestion.ask (p : Probes) (w : World) :
    ProbesQuestion → Except Failure Answer × Probes
  | releaseName => ((p.releaseName w).1.result.map .entry, (p.releaseName w).2)
  | releaseVersion => ((p.releaseVersion w).1.result.map .entry, (p.releaseVersion w).2)
  | hasXdgOpen => ((p.hasTool w .xdgOpen).1.result.map .flag, (p.hasTool w .xdgOpen).2)
  | hasXdgMime => ((p.hasTool w .xdgMime).1.result.map .flag, (p.hasTool w .xdgMime).2)

/-! ## Objects and stages -/

/-- Probes as an object, which knows its snapshot by number. -/
structure ProbesObject where
  info : Option Nat
  settings : Settings
  release : Once (Dictionary Text) := .unset
  xdgOpen : Once Bool := .unset
  xdgMime : Once Bool := .unset
deriving Repr, DecidableEq

namespace ProbesObject

def probes (o : ProbesObject) (snapshot : Snapshot) : Probes :=
  { snapshot, settings := o.settings, release := o.release, xdgOpen := o.xdgOpen,
    xdgMime := o.xdgMime }

def keep (o : ProbesObject) (p : Probes) : ProbesObject :=
  { o with release := p.release, xdgOpen := p.xdgOpen, xdgMime := p.xdgMime }

end ProbesObject

/-- How far a thread is with its call, by what it is to do next. -/
inductive Stage
  | idle
  | asking (call : Call)
  /-- Has found no probes and wants the lock. -/
  | waiting (call : Call)
  /-- Has the lock and looks again. -/
  | checking (call : Call)
  | attempting (call : Call)
  | storingSnapshot (call : Call) (number : Nat) (settings : Settings)
  /-- Reads the variable of the snapshot and makes probes for it. -/
  | building (call : Call) (settings : Settings)
  | storingProbes (call : Call) (number : Nat)
  /-- Gives the lock back, with the cause if the attempt failed. -/
  | leaving (call : Call) (failure : Option Failure)
  /-- Makes sure that there is an object in the variable of the call. -/
  | asserting (call : Call)
  /-- Reads that variable. -/
  | fetching (call : Call)
  | holding (call : Call) (number : Nat)
deriving Repr, DecidableEq

inductive Outcome
  | result (result : Except Failure Answer)
  | assertionFailed
  /-- There was nothing in place of an object. -/
  | noObject
deriving Repr

/-- A call that ended, with the object that it saw and the world of its last step. -/
structure Ended where
  thread : Nat
  call : Call
  object : Option Nat
  outcome : Outcome
  world : World
deriving Repr

/-- A session that threads share, with its two variables and the objects made so far. Any number
is that of a thread. -/
structure Shared where
  world : World
  snapshot : Option Nat := none
  probes : Option Nat := none
  /-- The thread that has the lock. -/
  holder : Option Nat := none
  snapshots : List Snapshot := []
  probesObjects : List ProbesObject := []
  /-- The worlds that attempts were made in. -/
  attempts : List World := []
  ended : List Ended := []
  stages : Nat → Stage := fun _ => .idle

inductive Event
  | call (thread : Nat) (call : Call)
  | step (thread : Nat)
  | change (world : World)
deriving Repr

namespace Shared

/-! ## Steps -/

def start (w : World) : Shared := { world := w }

/-- What the variable that a call is about holds. -/
def variableOf (s : Shared) : Call → Option Nat
  | .getSnapshot | .askSnapshot _ => s.snapshot
  | .getProbes | .askProbes _ => s.probes

def moveTo (s : Shared) (thread : Nat) (stage : Stage) : Shared :=
  { s with stages := fun t => if t = thread then stage else s.stages t }

def finish (s : Shared) (thread : Nat) (call : Call) (object : Option Nat) (outcome : Outcome) :
    Shared :=
  { s.moveTo thread .idle with
    ended := s.ended ++ [⟨thread, call, object, outcome, s.world⟩] }

/-- What a call comes to with an object, and the objects of the probes after that. -/
def answer (s : Shared) (call : Call) (number : Nat) : Outcome × List ProbesObject :=
  match call with
  | .getSnapshot | .getProbes => (.result (.ok .object), s.probesObjects)
  | .askSnapshot question =>
    match s.snapshots[number]? with
    | none => (.noObject, s.probesObjects)
    | some snapshot => (.result (question.ask snapshot), s.probesObjects)
  | .askProbes question =>
    match s.probesObjects[number]? with
    | none => (.noObject, s.probesObjects)
    | some object =>
      match object.info.bind (s.snapshots[·]?) with
      | none => (.noObject, s.probesObjects)
      | some snapshot =>
        let (result, after) := question.ask (object.probes snapshot) s.world
        (.result result, s.probesObjects.set number (object.keep after))

/-- One step of a thread. A thread that waits for the lock cannot move while another has it, and
one that is in no call has nothing to do. -/
def step? (s : Shared) (thread : Nat) : Option Shared :=
  match s.stages thread with
  | .idle => none
  | .asking call =>
    match s.probes with
    | some _ => some (s.moveTo thread (.asserting call))
    | none => some (s.moveTo thread (.waiting call))
  | .waiting call =>
    match s.holder with
    | some _ => none
    | none => some { s.moveTo thread (.checking call) with holder := some thread }
  | .checking call =>
    match s.probes with
    | some _ => some (s.moveTo thread (.leaving call none))
    | none => some (s.moveTo thread (.attempting call))
  | .attempting call =>
    let s := { s with attempts := s.attempts ++ [s.world] }
    match (Session.start s.world).result with
    | .error failure => some (s.moveTo thread (.leaving call (some failure)))
    | .ok p =>
      some { s.moveTo thread (.storingSnapshot call s.snapshots.length p.settings) with
        snapshots := s.snapshots ++ [p.snapshot] }
  | .storingSnapshot call number settings =>
    some { s.moveTo thread (.building call settings) with snapshot := some number }
  | .building call settings =>
    some { s.moveTo thread (.storingProbes call s.probesObjects.length) with
      probesObjects := s.probesObjects ++ [{ info := s.snapshot, settings }] }
  | .storingProbes call number =>
    some { s.moveTo thread (.leaving call none) with probes := some number }
  | .leaving call none => some { s.moveTo thread (.asserting call) with holder := none }
  | .leaving call (some failure) =>
    some { s.finish thread call none (.result (.error failure)) with holder := none }
  | .asserting call =>
    match s.variableOf call with
    | none => some (s.finish thread call none .assertionFailed)
    | some _ => some (s.moveTo thread (.fetching call))
  | .fetching call =>
    match s.variableOf call with
    | none => some (s.finish thread call none .noObject)
    | some number => some (s.moveTo thread (.holding call number))
  | .holding call number =>
    let (outcome, probesObjects) := s.answer call number
    some { s.finish thread call (some number) outcome with probesObjects }

/-- The session after an event. A thread begins a call only when it is in none. -/
def next (s : Shared) : Event → Shared
  | .call thread call =>
    match s.stages thread with
    | .idle => s.moveTo thread (.asking call)
    | _ => s
  | .step thread => (s.step? thread).getD s
  | .change world => { s with world }

def run (s : Shared) (events : List Event) : Shared := events.foldl next s

end Shared

end HostFacts.Session
