import Mathlib.Data.List.Induction
import HostFacts.Session.Threads

/-!
# The phases of a shared session

A session that threads share goes through five phases and never back: nothing
is there (`unset`), an attempt has given a snapshot (`taken`), its variable is
filled (`stored`), the probes are made (`built`), and their variable is filled
too (`ready`). Only the thread that has the lock can lead from one to the
next, and it gives the lock back in the first or the last one.

`Inv` says what is in the variables in each phase, which calls can have ended
by then, and what a thread can be at. A step of a thread changes its own stage
only, and what the stage of another one means is not touched by it
(`Inv.change`): either that stage has the lock, or it means something in the
last phase alone.
-/

namespace HostFacts.Session

/-! ## What calls come to -/

/-- A call put to the probes directly. -/
def Call.ask (p : Probes) (w : World) : Call → Except Failure Answer × Probes
  | .getSnapshot | .getProbes => (.ok .object, p)
  | .askSnapshot question => (question.ask p.snapshot, p)
  | .askProbes question => question.ask p w

/-- The attempt in the world failed for that cause. -/
def FailedFor (failure : Failure) (w : World) : Prop := (Session.start w).result = .error failure

def Failed (w : World) : Prop := ∃ failure, FailedFor failure w

/-- The call ended with the failure of an attempt. -/
def Ended.OfFailure (attempts : List World) (e : Ended) : Prop :=
  e.object = none ∧ ∃ failure, e.outcome = .result (.error failure)
    ∧ ∃ w ∈ attempts, FailedFor failure w

/-- The calls that ended, in their order, are failures of attempts, and calls
put to the same probes one after another, which are at `p` in the end. -/
inductive Told (attempts : List World) (p₀ : Probes) : List Ended → Probes → Prop
  | nil : Told attempts p₀ [] p₀
  | failure {ended : List Ended} {p : Probes} {e : Ended} (h : Told attempts p₀ ended p)
      (hf : e.OfFailure attempts) : Told attempts p₀ (ended ++ [e]) p
  | answer {ended : List Ended} {p : Probes} {e : Ended} (h : Told attempts p₀ ended p)
      (hobject : e.object = some 0) (hout : e.outcome = .result (e.call.ask p e.world).1) :
      Told attempts p₀ (ended ++ [e]) (e.call.ask p e.world).2

theorem Told.of_failures {attempts : List World} {p : Probes} {ended : List Ended}
    (h : ∀ e ∈ ended, e.OfFailure attempts) : Told attempts p ended p := by
  induction ended using List.reverseRecOn with
  | nil => exact .nil
  | append_singleton ended e ih =>
      refine .failure (ih fun e' he' => h e' (List.mem_append_left _ he')) ?_
      exact h e (List.mem_append_right _ (List.mem_singleton.mpr rfl))

theorem Ended.OfFailure.mono {attempts attempts' : List World} {e : Ended}
    (h : e.OfFailure attempts) (hsub : attempts ⊆ attempts') : e.OfFailure attempts' := by
  obtain ⟨hobject, failure, hout, w, hw, hf⟩ := h
  exact ⟨hobject, failure, hout, w, hsub hw, hf⟩

/-! ## What an object answers -/

theorem question_ask_snapshot_settings (p : Probes) (w : World) (question : ProbesQuestion) :
    (question.ask p w).2.snapshot = p.snapshot ∧ (question.ask p w).2.settings = p.settings := by
  have htool (tool : DesktopTool) :
      (p.hasTool w tool).2.snapshot = p.snapshot ∧ (p.hasTool w tool).2.settings = p.settings := by
    rw [Probes.hasTool_after]
    exact ⟨rfl, rfl⟩
  cases question with
  | releaseName => exact ⟨rfl, rfl⟩
  | releaseVersion => exact ⟨rfl, rfl⟩
  | hasXdgOpen => exact htool .xdgOpen
  | hasXdgMime => exact htool .xdgMime

theorem ask_snapshot_settings (p : Probes) (w : World) (call : Call) :
    (call.ask p w).2.snapshot = p.snapshot ∧ (call.ask p w).2.settings = p.settings := by
  cases call with
  | getSnapshot | getProbes | askSnapshot => exact ⟨rfl, rfl⟩
  | askProbes question => exact question_ask_snapshot_settings p w question

theorem Told.snapshot_settings {attempts : List World} {p₀ p : Probes} {ended : List Ended}
    (h : Told attempts p₀ ended p) : p.snapshot = p₀.snapshot ∧ p.settings = p₀.settings := by
  induction h with
  | nil => exact ⟨rfl, rfl⟩
  | failure _ _ ih => exact ih
  | @answer _ p e _ _ _ ih =>
      obtain ⟨hsnapshot, hsettings⟩ := ask_snapshot_settings p e.world e.call
      exact ⟨hsnapshot.trans ih.1, hsettings.trans ih.2⟩

/-- A call that ended is a failure, or its answer is that of the probes. -/
theorem Told.of_mem {attempts : List World} {p₀ p : Probes} {ended : List Ended}
    (h : Told attempts p₀ ended p) {e : Ended} (he : e ∈ ended) :
    e.OfFailure attempts ∨ e.object = some 0 ∧ ∃ q : Probes, q.snapshot = p₀.snapshot
      ∧ q.settings = p₀.settings ∧ e.outcome = .result (e.call.ask q e.world).1 := by
  induction h with
  | nil => exact absurd he List.not_mem_nil
  | failure _ hf ih =>
      rcases List.mem_append.mp he with he | he
      · exact ih he
      · rw [List.mem_singleton.mp he]
        exact .inl hf
  | @answer _ q _ h hobject hout ih =>
      rcases List.mem_append.mp he with he | he
      · exact ih he
      · rw [List.mem_singleton.mp he]
        obtain ⟨hsnapshot, hsettings⟩ := h.snapshot_settings
        exact .inr ⟨hobject, q, hsnapshot, hsettings, hout⟩

/-- What is kept of an answer are the probes after it. -/
theorem probes_keep (o : ProbesObject) (snapshot : Snapshot) (w : World)
    (question : ProbesQuestion) :
    (o.keep (question.ask (o.probes snapshot) w).2).probes snapshot
      = (question.ask (o.probes snapshot) w).2 := by
  obtain ⟨hsnapshot, hsettings⟩ := question_ask_snapshot_settings (o.probes snapshot) w question
  generalize hp : (question.ask (o.probes snapshot) w).2 = p at hsnapshot hsettings ⊢
  cases p
  cases hsnapshot
  cases hsettings
  rfl

/-- An attempt gives probes that have found nothing yet. -/
theorem start_eq {w : World} {p : Probes} (h : (Session.start w).result = .ok p) :
    p = { snapshot := p.snapshot, settings := p.settings } := by
  obtain ⟨settings, -, h⟩ := Attempt.bind_eq_ok.mp h
  obtain ⟨snapshot, -, h⟩ := Attempt.bind_eq_ok.mp h
  cases h
  rfl

/-! ## Phases -/

inductive Phase
  | unset
  | taken (p : Probes)
  | stored (p : Probes)
  | built (p : Probes)
  | ready (p : Probes)

namespace Phase

/-- What the attempt that succeeded gave. -/
def origin : Phase → Option Probes
  | unset => none
  | taken p | stored p | built p | ready p => some p

def snapshot : Phase → Option Nat
  | unset | taken _ => none
  | stored _ | built _ | ready _ => some 0

def probes : Phase → Option Nat
  | unset | taken _ | stored _ | built _ => none
  | ready _ => some 0

/-- Nobody is needed to lead on. -/
def Settled : Phase → Prop
  | unset | ready _ => True
  | taken _ | stored _ | built _ => False

/-- The probes objects that are there, and the calls that can have ended. -/
def Recorded (attempts : List World) : Phase → List ProbesObject → List Ended → Prop
  | unset | taken _ | stored _ => fun objects ended =>
    objects = [] ∧ ∀ e ∈ ended, e.OfFailure attempts
  | built p => fun objects ended =>
    objects = [{ info := some 0, settings := p.settings }] ∧ ∀ e ∈ ended, e.OfFailure attempts
  | ready p => fun objects ended =>
    ∃ o, objects = [o] ∧ o.info = some 0 ∧ Told attempts p ended (o.probes p.snapshot)

end Phase

/-- All attempts failed but the one that gave the probes, and that was the last. -/
def Tried (attempts : List World) : Option Probes → Prop
  | none => ∀ w ∈ attempts, Failed w
  | some p => ∃ failed w, attempts = failed ++ [w] ∧ (∀ v ∈ failed, Failed v)
    ∧ (Session.start w).result = .ok p

/-- What the variables and the records hold in a phase. -/
structure Holds (phase : Phase) (snapshot probes : Option Nat) (snapshots : List Snapshot)
    (objects : List ProbesObject) (attempts : List World) (ended : List Ended) : Prop where
  snapshot_eq : snapshot = phase.snapshot
  probes_eq : probes = phase.probes
  snapshots_eq : snapshots = (phase.origin.map Probes.snapshot).toList
  tried : Tried attempts phase.origin
  recorded : phase.Recorded attempts objects ended

def Shared.Shows (s : Shared) (phase : Phase) : Prop :=
  Holds phase s.snapshot s.probes s.snapshots s.probesObjects s.attempts s.ended

/-! ## What a stage means -/

namespace Stage

def hasLock : Stage → Bool
  | .checking _ | .attempting _ | .storingSnapshot _ _ _ | .building _ _ | .storingProbes _ _
  | .leaving _ _ => true
  | .idle | .asking _ | .waiting _ | .asserting _ | .fetching _ | .holding _ _ => false

def Fits (attempts : List World) (phase : Phase) : Stage → Prop
  | .idle | .asking _ | .waiting _ => True
  | .checking _ => phase.Settled
  | .attempting _ => phase = .unset
  | .storingSnapshot _ number settings =>
    number = 0 ∧ ∃ p, phase = .taken p ∧ settings = p.settings
  | .building _ settings => ∃ p, phase = .stored p ∧ settings = p.settings
  | .storingProbes _ number => number = 0 ∧ ∃ p, phase = .built p
  | .leaving _ (some failure) => phase = .unset ∧ ∃ w ∈ attempts, FailedFor failure w
  | .leaving _ none | .asserting _ | .fetching _ => ∃ p, phase = .ready p
  | .holding _ number => number = 0 ∧ ∃ p, phase = .ready p

/-- Without the lock a stage means something in the last phase alone. -/
theorem Fits.frame {attempts attempts' : List World} {phase phase' : Phase} {stage : Stage}
    (h : stage.Fits attempts phase) (hlock : stage.hasLock = false)
    (hready : ∀ p, phase = .ready p → phase' = .ready p) : stage.Fits attempts' phase' := by
  cases stage with
  | idle | asking | waiting => trivial
  | asserting | fetching =>
      obtain ⟨p, hp⟩ := h
      exact ⟨p, hready p hp⟩
  | holding =>
      obtain ⟨hnumber, p, hp⟩ := h
      exact ⟨hnumber, p, hready p hp⟩
  | _ => cases hlock

end Stage

theorem Shared.stages_moveTo_self {s : Shared} {t : Nat} {stage : Stage} :
    (s.moveTo t stage).stages t = stage :=
  if_pos rfl

theorem Shared.stages_moveTo_of_ne {s : Shared} {t u : Nat} {stage : Stage} (h : u ≠ t) :
    (s.moveTo t stage).stages u = s.stages u :=
  if_neg h

/-! ## The invariant -/

structure Inv (phase : Phase) (s : Shared) : Prop where
  shows : s.Shows phase
  fits : ∀ t, (s.stages t).Fits s.attempts phase
  holder_iff : ∀ t, s.holder = some t ↔ (s.stages t).hasLock = true
  /-- Whoever leads from the first phase to the last keeps the lock until then. -/
  settled : s.holder = none → phase.Settled

/-- After a state in the phase comes this one, in the same phase or, unless
it is the last, in any. -/
def Leads (phase : Phase) (s' : Shared) : Prop :=
  ∃ phase', Inv phase' s' ∧ ∀ p, phase = .ready p → phase' = .ready p

namespace Inv

variable {phase phase' : Phase} {s s' : Shared} {t : Nat} {stage stage' : Stage}

theorem leads (hi : Inv phase s) : Leads phase s := ⟨phase, hi, fun _ h => h⟩

theorem start (w : World) : Inv .unset (.start w) where
  shows := ⟨rfl, rfl, rfl, fun _ h => absurd h List.not_mem_nil, rfl,
    fun _ h => absurd h List.not_mem_nil⟩
  fits _ := trivial
  holder_iff _ := ⟨nofun, nofun⟩
  settled _ := trivial

/-! ## What the stages and variables tell -/

theorem fits_of (hi : Inv phase s) (hst : s.stages t = stage) : stage.Fits s.attempts phase :=
  hst ▸ hi.fits t

theorem holder_eq_iff (hi : Inv phase s) (hst : s.stages t = stage) :
    s.holder = some t ↔ stage.hasLock = true :=
  hst ▸ hi.holder_iff t

theorem holder_keep (hi : Inv phase s) (hst : s.stages t = stage)
    (hlock : stage'.hasLock = stage.hasLock) (u : Nat) :
    s.holder = some u ↔ ((s.moveTo t stage').stages u).hasLock = true := by
  rcases eq_or_ne u t with rfl | hne
  · rw [Shared.stages_moveTo_self, hlock]
    exact hi.holder_eq_iff hst
  · rw [Shared.stages_moveTo_of_ne hne]
    exact hi.holder_iff u

theorem holder_take (hi : Inv phase s) (hfree : s.holder = none)
    (hlock : stage'.hasLock = true) (u : Nat) :
    some t = some u ↔ ((s.moveTo t stage').stages u).hasLock = true := by
  rcases eq_or_ne u t with rfl | hne
  · rw [Shared.stages_moveTo_self, hlock]
    exact ⟨fun _ => rfl, fun _ => rfl⟩
  · rw [Shared.stages_moveTo_of_ne hne, ← hi.holder_iff u, hfree]
    exact ⟨fun h => absurd (Option.some.inj h).symm hne, nofun⟩

theorem holder_give (hi : Inv phase s) (hst : s.stages t = stage)
    (hlock : stage.hasLock = true) (hlock' : stage'.hasLock = false) (u : Nat) :
    none = some u ↔ ((s.moveTo t stage').stages u).hasLock = true := by
  have hholder := (hi.holder_eq_iff hst).mpr hlock
  rcases eq_or_ne u t with rfl | hne
  · rw [Shared.stages_moveTo_self, hlock']
    exact ⟨nofun, nofun⟩
  · rw [Shared.stages_moveTo_of_ne hne, ← hi.holder_iff u, hholder]
    exact ⟨nofun, fun h => absurd (Option.some.inj h).symm hne⟩

theorem exists_ready (hi : Inv phase s) {number : Nat} (h : s.probes = some number) :
    ∃ p, phase = .ready p := by
  have hprobes := hi.shows.probes_eq
  rw [h] at hprobes
  cases phase with
  | ready p => exact ⟨p, rfl⟩
  | unset | taken p | stored p | built p => cases hprobes

/-! ## Changes of one stage -/

/-- A thread goes to `stage'`. Without the lock it neither leads on nor makes
an attempt, so whoever has the lock is not disturbed. -/
theorem change (hi : Inv phase s) (stage' : Stage) (hst : s.stages t = stage)
    (hstages : s'.stages = (s.moveTo t stage').stages)
    (hholder : ∀ u, s'.holder = some u ↔ ((s.moveTo t stage').stages u).hasLock = true)
    (hshows : s'.Shows phase') (hfits : stage'.Fits s'.attempts phase')
    (hready : ∀ p, phase = .ready p → phase' = .ready p)
    (hsame : stage.hasLock = false → phase' = phase ∧ s'.attempts = s.attempts)
    (hsettled : s'.holder = none → phase'.Settled) : Inv phase' s' where
  shows := hshows
  fits u := by
    rw [hstages]
    rcases eq_or_ne u t with rfl | hne
    · rw [Shared.stages_moveTo_self]
      exact hfits
    · rw [Shared.stages_moveTo_of_ne hne]
      cases hlock : (s.stages u).hasLock with
      | false => exact (hi.fits u).frame hlock hready
      | true =>
          have hu := (hi.holder_iff u).mpr hlock
          cases hlock' : stage.hasLock with
          | true =>
              have ht := (hi.holder_eq_iff hst).mpr hlock'
              exact absurd (Option.some.inj (hu.symm.trans ht)) hne
          | false =>
              obtain ⟨hphase, hattempts⟩ := hsame hlock'
              rw [hphase, hattempts]
              exact hi.fits u
  holder_iff u := by
    rw [hstages]
    exact hholder u
  settled := hsettled

/-- A thread goes on and changes nothing else. -/
theorem move (hi : Inv phase s) (stage' : Stage) (hst : s.stages t = stage)
    (hlock : stage'.hasLock = stage.hasLock) (hfits : stage'.Fits s.attempts phase) :
    Inv phase (s.moveTo t stage') :=
  hi.change stage' hst rfl (hi.holder_keep hst hlock) hi.shows hfits (fun _ h => h)
    (fun _ => ⟨rfl, rfl⟩) hi.settled

/-- The thread that has the lock leads on and keeps it. -/
theorem lead (hi : Inv phase s) (stage' : Stage) (hst : s.stages t = stage)
    (hlock : stage.hasLock = true) (hlock' : stage'.hasLock = true)
    (hstages : s'.stages = (s.moveTo t stage').stages) (hholder : s'.holder = s.holder)
    (hshows : s'.Shows phase') (hfits : stage'.Fits s'.attempts phase')
    (hnot : ∀ p, phase ≠ .ready p) : Leads phase s' := by
  have hready : ∀ p, phase = .ready p → phase' = .ready p := fun p h => absurd h (hnot p)
  refine ⟨phase', hi.change stage' hst hstages ?_ hshows hfits hready ?_ ?_, hready⟩
  · rw [hholder]
    exact hi.holder_keep hst (hlock'.trans hlock.symm)
  · intro hfalse
    rw [hlock] at hfalse
    cases hfalse
  · intro hnone
    rw [hholder, (hi.holder_eq_iff hst).mpr hlock] at hnone
    cases hnone

/-- The thread that has the lock gives it back. -/
theorem give (hi : Inv phase s) (stage' : Stage) (hst : s.stages t = stage)
    (hlock : stage.hasLock = true) (hlock' : stage'.hasLock = false)
    (hstages : s'.stages = (s.moveTo t stage').stages) (hshows : s'.Shows phase)
    (hfits : stage'.Fits s'.attempts phase) (hholder : s'.holder = none)
    (hsettled : phase.Settled) : Inv phase s' := by
  refine hi.change stage' hst hstages ?_ hshows hfits (fun _ h => h) ?_ (fun _ => hsettled)
  · rw [hholder]
    exact hi.holder_give hst hlock hlock'
  · intro hfalse
    rw [hlock] at hfalse
    cases hfalse

end Inv

end HostFacts.Session
