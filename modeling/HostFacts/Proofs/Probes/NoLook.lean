import Mathlib.Data.List.Forall2
import HostFacts.Process
import HostFacts.Proofs.Probes.Degrading

/-!
# Calls that take no look

Where nothing is drawn by X11 there is no release file to be read and no tool to be
looked for. Two guards see to that, one inside the cell of the release file and one in
front of the cells of the tools, and they let the same hosts pass (`OsRelease.look_eq`):
all but those of three families (`isXWindow_eq_false_iff`). So a call comes to what it
would come to if its look had failed, in every world alike (`Idle.attempt_eq`): all that
the files have to do with it is nothing. On any host the same is true of a tool whose name
is not known (`attempt_unknown`).

`Idle` is what calls keep. That two runs which differ in the files only are the same
follows from it by induction (`Idle.run_eq`).
-/

namespace HostFacts

/-- The hosts without X11 are of three families. -/
theorem Snapshot.isXWindow_eq_false_iff (s : Snapshot) :
    s.isXWindow = false ↔ s.isWindows = true ∨ s.isOs2 = true ∨ s.isMac = true := by
  unfold isXWindow isUnix
  cases s.isWindows <;> cases s.isOs2 <;> cases s.isMac <;> simp

namespace Probes

variable {p : Probes} {snapshot : Snapshot} {settings : Settings}

/-! ## One call -/

/-- What is said of a name that no tool has. -/
def unknownTool (name : Text) : Message := ⟨.warn, "Unknown optional executable: " ++ name⟩

/-- The messages of a call that takes no look. -/
def Call.remarks : Call → List Message
  | .hasToolNamed name => if (DesktopTool.ofName? name).isSome then [] else [unknownTool name]
  | .osRelease | .releaseName | .releaseVersion | .releaseId | .hasXdgOpen | .hasXdgMime => []

/-- The cells after a call that takes no look: the release file counts as one that says nothing. -/
def Call.passed (p : Probes) (call : Call) : Probes :=
  if call.fromRelease?.isSome then { p with release := .set [] } else p

/-- Probes of a host without X11 that have found nothing, as there is nothing to look for. -/
structure Idle (p : Probes) : Prop where
  noX11 : p.snapshot.isXWindow = false
  release : p.release = .unset ∨ p.release = .set []
  xdgOpen : p.xdgOpen = .unset
  xdgMime : p.xdgMime = .unset

theorem Idle.not_isXWindow (h : p.Idle) : ¬ p.snapshot.isXWindow = true := by
  rw [h.noX11]
  exact nofun

theorem Idle.start (hx : snapshot.isXWindow = false) (settings : Settings) :
    Idle { snapshot, settings } := ⟨hx, .inl rfl, rfl, rfl⟩

theorem Idle.passed (h : p.Idle) (call : Call) : (call.passed p).Idle := by
  unfold Call.passed
  split
  · exact ⟨h.noX11, .inr rfl, h.xdgOpen, h.xdgMime⟩
  · exact h

theorem ofName?_eq_none {name : Text} (hopen : name ≠ "xdg-open") (hmime : name ≠ "xdg-mime") :
    DesktopTool.ofName? name = none := by
  refine List.find?_eq_none.mpr fun tool _ => ?_
  rw [decide_eq_true_eq]
  cases tool with
  | xdgOpen => exact hopen.symm
  | xdgMime => exact hmime.symm

/-- A tool that is not known is not there, and nobody has to look for it to say so. -/
theorem attempt_unknown {name : Text} (h : DesktopTool.ofName? name = none) (p : Probes)
    (w : World) :
    (Call.hasToolNamed name).attempt p w = (⟨.ok (.found false), [unknownTool name]⟩, p) := by
  rw [Call.attempt, hasToolNamed, h]
  rfl

theorem Idle.osRelease_eq (h : p.Idle) (w : World) :
    p.osRelease w = (⟨.ok [], []⟩, { p with release := .set [] }) := by
  unfold osRelease
  rw [OsRelease.look_eq, if_neg h.not_isXWindow]
  rcases h.release with hunset | hset
  · rw [hunset]
    rfl
  · rw [hset]
    rfl

theorem Idle.hasTool_eq (h : p.Idle) (w : World) (tool : DesktopTool) :
    p.hasTool w tool = (pure false, p) := if_neg h.not_isXWindow

theorem Idle.attempt_eq (h : p.Idle) (w : World) (call : Call) :
    call.attempt p w = (⟨.ok call.failed, call.remarks⟩, call.passed p) := by
  cases call with
  | osRelease =>
      rw [Call.attempt, h.osRelease_eq]
      rfl
  | releaseName | releaseVersion | releaseId =>
      simp only [Call.attempt, releaseName, releaseVersion, releaseId, releaseEntry, h.osRelease_eq]
      rfl
  | hasXdgOpen | hasXdgMime =>
      rw [Call.attempt, h.hasTool_eq]
      rfl
  | hasToolNamed name =>
      cases hname : DesktopTool.ofName? name with
      | none =>
          rw [attempt_unknown hname, Call.remarks, hname]
          rfl
      | some tool =>
          rw [Call.attempt, hasToolNamed, hname, Call.remarks, hname]
          dsimp only
          rw [h.hasTool_eq]
          rfl

end Probes

/-! ## Runs -/

namespace Process

variable {p : Probes} {process process' : Process} {number : Nat}

/-- The process with these probes in the place of those of the number. -/
def withProbes (process : Process) (number : Nat) (p : Probes) : Process :=
  { process with probes := process.probes.set number p }

theorem probes_withProbes (hp : process.probes[number]? = some p) (q : Probes) :
    (process.withProbes number q).probes[number]? = some q := by
  obtain ⟨hlt, -⟩ := List.getElem?_eq_some_iff.mp hp
  exact List.getElem?_set_self hlt

/-- Calls of the probes of this number, each in the world of its moment. -/
def questions (number : Nat) (steps : List (World × Probes.Call)) : List (World × Operation) :=
  steps.map fun step => (step.1, .askProbes number step.2)

/-- The same calls in worlds with the same environment, whatever else there is in them. -/
def SameCalls (steps steps' : List (World × Probes.Call)) : Prop :=
  List.Forall₂ (fun step step' => step.2 = step'.2 ∧ step.1.env = step'.1.env) steps steps'

theorem run_questions_cons (hp : process.probes[number]? = some p) (h : p.Idle) (w : World)
    (call : Probes.Call) (steps : List (World × Probes.Call)) :
    process.run (questions number ((w, call) :: steps))
      = ⟨.ok (.found call.failed), w.env.shown call.remarks,
          process.withProbes number (call.passed p)⟩
        :: (process.withProbes number (call.passed p)).run (questions number steps) := by
  rw [questions, List.map_cons, run, perform, hp]
  simp only [h.attempt_eq, Attempt.result_map, Attempt.messages_map]
  rfl

/-- What a call leaves behind that takes no look. -/
def Record.PassedOver (number : Nat) (step : World × Probes.Call) (r : Record) : Prop :=
  r.result = .ok (.found step.2.failed) ∧ r.log = step.1.env.shown step.2.remarks
    ∧ ∃ p, r.after.probes[number]? = some p ∧ ∀ tool, p.cell tool = .unset

theorem passedOver_of_idle (hp : process.probes[number]? = some p) (h : p.Idle)
    (steps : List (World × Probes.Call)) :
    List.Forall₂ (Record.PassedOver number) steps (process.run (questions number steps)) := by
  induction steps generalizing process p with
  | nil => exact .nil
  | cons step steps ih =>
      obtain ⟨w, call⟩ := step
      have hafter := probes_withProbes hp (call.passed p)
      rw [run_questions_cons hp h]
      refine .cons ⟨rfl, rfl, call.passed p, hafter, fun tool => ?_⟩ (ih hafter (h.passed call))
      cases tool with
      | xdgOpen => exact (h.passed call).xdgOpen
      | xdgMime => exact (h.passed call).xdgMime

theorem run_eq_of_idle (hp : process.probes[number]? = some p) (h : p.Idle)
    {steps steps' : List (World × Probes.Call)} (hsame : SameCalls steps steps') :
    process.run (questions number steps) = process.run (questions number steps') := by
  induction hsame generalizing process p with
  | nil => rfl
  | @cons step step' steps steps' hstep _ ih =>
      obtain ⟨w, call⟩ := step
      obtain ⟨w', call'⟩ := step'
      obtain ⟨rfl, henv⟩ : call = call' ∧ w.env = w'.env := hstep
      rw [run_questions_cons hp h, run_questions_cons hp h, henv,
        ih (probes_withProbes hp (call.passed p)) (h.passed call)]

end Process

namespace Probes

variable {snapshot : Snapshot} {settings : Settings} {r : Run}

theorem Run.Kept.idle_next (h : r.Kept snapshot settings) (hidle : r.stored.view.Idle)
    (step : Step) : (r.next step).stored.view.Idle := by
  cases step with
  | change world => exact hidle
  | tamper place content =>
      rw [Run.view_next_tamper h]
      exact hidle
  | call call =>
      rw [Run.view_next_call h, Call.ask_eq_attempt, hidle.attempt_eq]
      exact hidle.passed call

theorem Run.Kept.idle_follow (h : r.Kept snapshot settings) (hidle : r.stored.view.Idle)
    (steps : List Step) : (r.follow steps).stored.view.Idle := by
  induction steps generalizing r with
  | nil => exact hidle
  | cons step steps ih => exact ih (h.next step) (h.idle_next hidle step)

/-! ## The headline theorem -/

/-- Probes that do not depend on the files. -/
structure OverlooksFiles (snapshot : Snapshot) (settings : Settings) : Prop where
  /-- No call finds anything, and no cell of a tool is ever set. -/
  passedOver : ∀ (process : Process) (number : Nat),
    process.probes[number]? = some { snapshot, settings } →
      ∀ steps, List.Forall₂ (Process.Record.PassedOver number) steps
        (process.run (Process.questions number steps))
  /-- Two runs in worlds that have the environment in common leave the same behind, step by step:
  results, log and cells. -/
  alike : ∀ (process : Process) (number : Nat),
    process.probes[number]? = some { snapshot, settings } →
      ∀ steps steps', Process.SameCalls steps steps' →
        process.run (Process.questions number steps)
          = process.run (Process.questions number steps')
  /-- That stays so if the mappings that were handed out are changed in between. -/
  objects : ∀ w steps, let r := (Run.start snapshot settings w).follow steps
    (∀ call, r.ask call = .ok call.failed)
      ∧ r.stored.xdgOpen = .unset ∧ r.stored.xdgMime = .unset

/-- **Where nothing is drawn by X11 probes do not depend on the files**, and these hosts are those
of three families. Nowhere does it depend on them whether a tool is there that is not known: it is
not, and no cell changes. -/
theorem probes_overlookFiles (snapshot : Snapshot) (settings : Settings) :
    (snapshot.isXWindow = false
        ↔ snapshot.isWindows = true ∨ snapshot.isOs2 = true ∨ snapshot.isMac = true)
      ∧ (snapshot.isXWindow = false → OverlooksFiles snapshot settings)
      ∧ ∀ (p : Probes) (name : Text), name ≠ "xdg-open" → name ≠ "xdg-mime" → ∀ w,
        (Call.hasToolNamed name).attempt p w = (⟨.ok (.found false), [unknownTool name]⟩, p) := by
  refine ⟨snapshot.isXWindow_eq_false_iff, fun hx => ?_, fun p name hopen hmime w =>
    attempt_unknown (ofName?_eq_none hopen hmime) p w⟩
  have hidle := Idle.start hx settings
  exact {
    passedOver := fun process number hp steps => Process.passedOver_of_idle hp hidle steps
    alike := fun process number hp steps steps' hsame => Process.run_eq_of_idle hp hidle hsame
    objects := fun w steps => by
      have hkept := Run.kept_start snapshot settings w
      have hafter := hkept.idle_follow hidle steps
      refine ⟨fun call => ?_, hafter.xdgOpen, hafter.xdgMime⟩
      rw [Run.ask_eq (hkept.follow steps), Call.ask_eq_attempt, hafter.attempt_eq] }

/-- A tool that is there on Linux is not looked for on OS/2. -/
example :
    let w : World := ⟨[], ⟨[], [], [], [], [], [], [], [], none, none⟩,
      ⟨[(["usr"], .directory), (["usr", "bin"], .directory),
        (["usr", "bin", "xdg-open"], .file [] true)], []⟩, ⟨none, []⟩⟩
    let found (osName : Text) :=
      (Call.hasXdgOpen.ask { snapshot := { osName }, settings := {} } w).1
    found "Linux" = .ok (.found true) ∧ found "OS/2" = .ok (.found false) := by
  decide

end Probes

end HostFacts
