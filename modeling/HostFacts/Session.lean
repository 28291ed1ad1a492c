import HostFacts.Probes
import HostFacts.Settings.Loading
import HostFacts.Snapshot.Detection

/-!
# Sessions

A session has one snapshot and one set of probes, taken under the default
settings when they are first needed. If that fails the session is as it was
before, and the next one who needs them tries again.
-/

namespace HostFacts

structure Session where
  /-- The probes and, inside them, the snapshot. -/
  probes : Once Probes := .unset
deriving Repr, DecidableEq

namespace Session

/-- Probes for the host as it is now. -/
def start (w : World) : Attempt Probes := do
  let settings ← Settings.loadDefault w
  let snapshot ← Snapshot.detect w.host w.env settings
  return { snapshot, settings }

/-- The probes of the session. -/
def getProbes (session : Session) (w : World) : Attempt Probes × Session :=
  let (probes, cell) := session.probes.attempt (start w)
  (probes, ⟨cell⟩)

/-- The snapshot of the session. -/
def getSnapshot (session : Session) (w : World) : Attempt Snapshot × Session :=
  let (probes, session) := session.getProbes w
  (Probes.snapshot <$> probes, session)

section Started

variable {session : Session} {w : World} {p : Probes} {failure : Failure}

theorem getProbes_of_ok (h : session.probes.get (start w).result = (.ok p, .set p)) :
    (session.getProbes w).1.result = .ok p ∧ (session.getProbes w).2 = ⟨.set p⟩ :=
  ⟨congrArg Prod.fst h, congrArg (fun r => Session.mk r.2) h⟩

theorem getProbes_of_error (h : session.probes.get (start w).result = (.error failure, .unset)) :
    (session.getProbes w).1.result = .error failure ∧ (session.getProbes w).2 = ⟨.unset⟩ :=
  ⟨congrArg Prod.fst h, congrArg (fun r => Session.mk r.2) h⟩

theorem getSnapshot_of_ok (h : session.probes.get (start w).result = (.ok p, .set p)) :
    (session.getSnapshot w).1.result = .ok p.snapshot
      ∧ (session.getSnapshot w).2 = ⟨.set p⟩ := by
  refine ⟨?_, (getProbes_of_ok h).2⟩
  simp only [getSnapshot, Attempt.result_map, (getProbes_of_ok h).1, Except.map]

theorem getSnapshot_of_error
    (h : session.probes.get (start w).result = (.error failure, .unset)) :
    (session.getSnapshot w).1.result = .error failure
      ∧ (session.getSnapshot w).2 = ⟨.unset⟩ := by
  refine ⟨?_, (getProbes_of_error h).2⟩
  simp only [getSnapshot, Attempt.result_map, (getProbes_of_error h).1, Except.map]

end Started

/-! ## Questions to the snapshot and the probes -/

/-- Asks the snapshot of the session. -/
def askSnapshot {α : Type} (session : Session) (w : World)
    (question : Snapshot → Except Failure α) : Attempt α × Session :=
  let (snapshot, session) := session.getSnapshot w
  (snapshot >>= fun s => Attempt.ofExcept (question s), session)

/-- Asks the probes of the session, and keeps what they found. -/
def askProbes {α : Type} (session : Session) (w : World)
    (question : Probes → World → Attempt α × Probes) : Attempt α × Session :=
  let (probes, session) := session.getProbes w
  match probes.result with
  | .error failure => (⟨.error failure, probes.messages⟩, session)
  | .ok p =>
    let (answer, after) := question p w
    (⟨answer.result, probes.messages ++ answer.messages⟩, ⟨.set after⟩)

def isOsVersionAtLeast (session : Session) (w : World) (version : Option Text) :
    Attempt Bool × Session :=
  session.askSnapshot w fun s => (s.osVersionAtLeast version).mapError .numeral

def isRuntimeVersionAtLeast (session : Session) (w : World) (version : Option Text) :
    Attempt Bool × Session :=
  session.askSnapshot w fun s => (s.runtimeVersionAtLeast version).mapError .numeral

def releaseName (session : Session) (w : World) : Attempt (Option Text) × Session :=
  session.askProbes w Probes.releaseName

def releaseVersion (session : Session) (w : World) : Attempt (Option Text) × Session :=
  session.askProbes w Probes.releaseVersion

def hasXdgOpen (session : Session) (w : World) : Attempt Bool × Session :=
  session.askProbes w fun p w => p.hasTool w .xdgOpen

def hasXdgMime (session : Session) (w : World) : Attempt Bool × Session :=
  session.askProbes w fun p w => p.hasTool w .xdgMime

end Session

end HostFacts
