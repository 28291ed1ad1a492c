import HostFacts.Proofs.Probes.FirstLook
import HostFacts.Settings.Loading

/-!
# Looks that fail

A look that finds nothing it could use is an answer too: no entries, no tool.
Wherever a run of the probes has come to, a call that takes such a look answers
so, and what it answers is kept like any other answer (`Settled`). Nothing is
raised, with one exception. A path that holds U+0000 is not one that the system
takes, and for the release file that comes out as an error, of every call that
asks for it. No such call leaves anything in the cell, so the next one comes to
the same error. The directory of the tools may hold U+0000: then no tool is
there.

`Run.Kept` is what the steps of a run keep, and `Keeps` says how a step treats
a cell; the lemmas on `Keeps` follow one cell from a point of a run on.
-/

namespace HostFacts.Probes

/-- What a call answers from a look that has failed. -/
def Call.failed : Call → Answer
  | .osRelease => .entries []
  | .releaseName | .releaseVersion | .releaseId => .entry none
  | .hasToolNamed _ | .hasXdgOpen | .hasXdgMime => .found false

theorem Call.failed_of_fromRelease {call : Call} {answer : Dictionary Text → Answer}
    (h : call.fromRelease? = some answer) : answer [] = call.failed := by
  cases call with
  | osRelease | releaseName | releaseVersion | releaseId =>
      cases h
      rfl
  | hasToolNamed | hasXdgOpen | hasXdgMime => cases h

theorem Call.failed_of_not_fromRelease {call : Call} (h : call.fromRelease? = none) :
    call.failed = .found false := by
  cases call with
  | osRelease | releaseName | releaseVersion | releaseId => cases h
  | hasToolNamed | hasXdgOpen | hasXdgMime => rfl

theorem Call.fromTool?_eq_some {tool : DesktopTool} {call : Call} {answer : Bool → Answer}
    (h : call.fromTool? tool = some answer) :
    call.tool? = some tool ∧ call.fromRelease? = none ∧ answer = .found := by
  unfold Call.fromTool? at h
  split at h
  · rename_i htool
    cases h
    refine ⟨htool, ?_, rfl⟩
    cases call with
    | osRelease | releaseName | releaseVersion | releaseId => cases htool
    | hasToolNamed | hasXdgOpen | hasXdgMime => rfl
  · cases h

/-! ## What a run keeps -/

/-- What a call comes to at this point of a run. -/
def Run.ask (r : Run) (call : Call) : Except Failure Answer := (r.stored.call r.world call).1

/-- The mapping in the cell is not handed out, and the probes are for this
snapshot and under these settings. -/
structure Run.Kept (snapshot : Snapshot) (settings : Settings) (r : Run) : Prop where
  sound : r.stored.Sound
  isFor : IsFor snapshot settings r.stored.view

variable {snapshot : Snapshot} {settings : Settings} {r : Run}

theorem Run.kept_start (snapshot : Snapshot) (settings : Settings) (w : World) :
    (Run.start snapshot settings w).Kept snapshot settings where
  sound := { cell := nofun, lent := fun _ h => absurd h List.not_mem_nil }
  isFor := ⟨rfl, rfl⟩

theorem Run.ask_eq (h : r.Kept snapshot settings) (call : Call) :
    r.ask call = (call.ask r.stored.view r.world).1 :=
  (h.sound.call_eq r.world call).1

theorem Run.view_next_call (h : r.Kept snapshot settings) (call : Call) :
    (r.next (.call call)).stored.view = (call.ask r.stored.view r.world).2 :=
  (h.sound.call_eq r.world call).2.1

theorem Run.view_next_tamper (h : r.Kept snapshot settings) (place : Nat)
    (content : Dictionary Text) : (r.next (.tamper place content)).stored.view = r.stored.view :=
  (h.sound.tamper place content).2

theorem Run.Kept.next (h : r.Kept snapshot settings) (step : Step) :
    (r.next step).Kept snapshot settings := by
  cases step with
  | change world => exact ⟨h.sound, h.isFor⟩
  | tamper place content =>
      refine ⟨(h.sound.tamper place content).1, ?_⟩
      rw [Run.view_next_tamper h]
      exact h.isFor
  | call call =>
      refine ⟨(h.sound.call_eq r.world call).2.2, ?_⟩
      rw [Run.view_next_call h]
      exact h.isFor.ask r.world call

theorem Run.Kept.follow (h : r.Kept snapshot settings) (steps : List Step) :
    (r.follow steps).Kept snapshot settings := by
  induction steps generalizing r with
  | nil => exact h
  | cons step steps ih => exact ih (h.next step)

theorem view_release_eq_unset {s : Stored} : s.view.release = .unset ↔ s.release = .unset := by
  show s.release.map s.content = .unset ↔ _
  cases s.release with
  | unset => exact ⟨fun _ => rfl, fun _ => rfl⟩
  | set number => exact ⟨nofun, nofun⟩

/-! ## One cell from here on -/

section OneCell

variable {β : Type} {look : World → Except Failure β} {asks : Call → Option (β → Answer)}
  {cell : Probes → Once β} {b : β}

namespace Keeps

variable (hk : Keeps look asks cell (IsFor snapshot settings)) (h : r.Kept snapshot settings)

include hk h

theorem run_ask {call : Call} {answer : β → Answer} (hasks : asks call = some answer) :
    r.ask call = ((cell r.stored.view).get (look r.world)).1.map answer
      ∧ cell (r.next (.call call)).stored.view
        = ((cell r.stored.view).get (look r.world)).2 := by
  rw [Run.ask_eq h, Run.view_next_call h]
  exact hk.asked _ _ call answer h.isFor hasks

/-- A cell changes with a call that asks it and with nothing else. -/
theorem run_next (step : Step) :
    cell (r.next step).stored.view = cell r.stored.view
      ∨ cell (r.next step).stored.view
        = ((cell r.stored.view).get (look r.world)).2 := by
  cases step with
  | change world => exact .inl rfl
  | tamper place content => exact .inl (congrArg cell (Run.view_next_tamper h place content))
  | call call =>
      cases hasks : asks call with
      | some answer => exact .inr (hk.run_ask h hasks).2
      | none =>
          refine .inl ?_
          rw [Run.view_next_call h]
          exact hk.other _ _ call h.isFor hasks

/-- A set cell stays as it is, and all that is asked of it is answered from it. -/
theorem follow_set (hset : cell r.stored.view = .set b) (steps : List Step) :
    cell (r.follow steps).stored.view = .set b := by
  induction steps generalizing r with
  | nil => exact hset
  | cons step steps ih =>
      refine ih (h.next step) ?_
      rcases hk.run_next h step with hsame | hget
      · exact hsame.trans hset
      · rw [hget, hset, Once.get_set]

theorem ask_set (hset : cell r.stored.view = .set b) {call : Call} {answer : β → Answer}
    (hasks : asks call = some answer) : r.ask call = .ok (answer b) := by
  rw [(hk.run_ask h hasks).1, hset, Once.get_set]
  rfl

/-- A cell stays unset for as long as every look fails. -/
theorem follow_unset (hlook : ∀ w, ∃ failure, look w = .error failure)
    (hunset : cell r.stored.view = .unset) (steps : List Step) :
    cell (r.follow steps).stored.view = .unset := by
  induction steps generalizing r with
  | nil => exact hunset
  | cons step steps ih =>
      refine ih (h.next step) ?_
      rcases hk.run_next h step with hsame | hget
      · exact hsame.trans hunset
      · obtain ⟨failure, hfailure⟩ := hlook r.world
        rw [hget, hunset, hfailure, Once.get_unset_error]

/-- If no look fails, every call that is about the cell is answered. -/
theorem ask_answers (hlook : ∀ w, ∃ b, look w = .ok b) {call : Call} {answer : β → Answer}
    (hasks : asks call = some answer) : ∃ b, r.ask call = .ok (answer b) := by
  obtain ⟨found, hfound⟩ := hlook r.world
  rw [(hk.run_ask h hasks).1, hfound]
  cases cell r.stored.view with
  | unset => exact ⟨found, rfl⟩
  | set kept => exact ⟨kept, rfl⟩

end Keeps

/-- The cell holds `b` at this point of the run and at all later ones, and the
calls that are about it give the answers of a look that has failed. -/
def Settled (asks : Call → Option (β → Answer)) (cell : Probes → Once β) (b : β) (r : Run) :
    Prop :=
  ∀ steps : List Step, cell (r.follow steps).stored.view = .set b
    ∧ ∀ call, (asks call).isSome → (r.follow steps).ask call = .ok call.failed

/-- A call that finds `b`, the value of a look that failed, settles the cell. -/
theorem Keeps.settled (hk : Keeps look asks cell (IsFor snapshot settings))
    (h : r.Kept snapshot settings)
    (hfailed : ∀ call answer, asks call = some answer → answer b = call.failed)
    (hunset : cell r.stored.view = .unset) (hlook : look r.world = .ok b) {call : Call}
    (hasks : (asks call).isSome) :
    r.ask call = .ok call.failed ∧ Settled asks cell b (r.next (.call call)) := by
  obtain ⟨answer, hanswer⟩ := Option.isSome_iff_exists.mp hasks
  obtain ⟨hresult, hafter⟩ := hk.run_ask h hanswer
  rw [hunset, hlook, Once.get_unset_ok] at hresult hafter
  refine ⟨?_, fun steps => ?_⟩
  · rw [hresult, ← hfailed call answer hanswer]
    rfl
  · have hset := hk.follow_set (h.next (.call call)) hafter steps
    refine ⟨hset, fun later hlater => ?_⟩
    obtain ⟨answer', hanswer'⟩ := Option.isSome_iff_exists.mp hlater
    rw [hk.ask_set ((h.next (.call call)).follow steps) hset hanswer',
      hfailed later answer' hanswer']

end OneCell

/-! ## Looks that find nothing they could use -/

/-- The release file is to be read, and its path holds U+0000. -/
def GarbledPath (snapshot : Snapshot) (settings : Settings) : Prop :=
  snapshot.isXWindow = true ∧ (Path.ofText settings.releaseFile).hasNul = true

/-- The release file is not there for the probes, cannot be opened, or is not
text in UTF-8. -/
def NoRelease (snapshot : Snapshot) (settings : Settings) (w : World) : Prop :=
  snapshot.isXWindow = true →
    ∃ failure, w.readText (.ofText settings.releaseFile) = .error failure

/-- It cannot be found out that the tool is there. -/
def NoTool (settings : Settings) (tool : DesktopTool) (w : World) : Prop :=
  w.isExecutable ((Path.ofText settings.executableDirectory).child tool.name) ≠ .ok true

theorem releaseIn_of_garbledPath (hgarbled : GarbledPath snapshot settings) (w : World) :
    releaseIn snapshot settings w = .error .embeddedNul := by
  have hx : (snapshot.isUnix && !snapshot.isMac) = true := hgarbled.1
  rw [releaseIn, if_pos hx, if_pos hgarbled.2]

theorem exists_releaseIn (hpath : ¬ GarbledPath snapshot settings) (w : World) :
    ∃ entries, releaseIn snapshot settings w = .ok entries := by
  unfold releaseIn
  split
  · rename_i hx
    rw [if_neg fun hnul => hpath ⟨hx, hnul⟩]
    cases w.files.content (.ofText settings.releaseFile) with
    | error fault => exact ⟨[], rfl⟩
    | ok bytes =>
        dsimp only
        cases Utf8.decode bytes with
        | error fault => exact ⟨[], rfl⟩
        | ok t => exact ⟨_, rfl⟩
  · exact ⟨[], rfl⟩

theorem releaseIn_of_noRelease (hpath : ¬ GarbledPath snapshot settings) {w : World}
    (hno : NoRelease snapshot settings w) : releaseIn snapshot settings w = .ok [] := by
  unfold releaseIn
  split
  · rename_i hx
    have hnul : ¬ (Path.ofText settings.releaseFile).hasNul = true :=
      fun hnul => hpath ⟨hx, hnul⟩
    obtain ⟨failure, hread⟩ := hno hx
    rw [World.readText_eq, if_neg hnul] at hread
    rw [if_neg hnul]
    cases hcontent : w.files.content (.ofText settings.releaseFile) with
    | error fault => rfl
    | ok bytes =>
        rw [hcontent] at hread
        dsimp only at hread ⊢
        cases hdecode : Utf8.decode bytes with
        | error fault => rfl
        | ok t =>
            rw [hdecode] at hread
            cases hread
  · rfl

theorem toolIn_of_noTool {tool : DesktopTool} {w : World} (hno : NoTool settings tool w) :
    toolIn settings tool w = false := by
  unfold NoTool World.isExecutable FileTree.isExecutable FileTree.entry? at hno
  unfold toolIn
  generalize (Path.ofText settings.executableDirectory).child tool.name = path at hno ⊢
  by_cases hnul : path.hasNul
  · exact if_pos hnul
  · rw [if_neg hnul] at hno
    refine (if_neg hnul).trans ?_
    cases hentry : w.files.entry path with
    | error fault => rfl
    | ok entry =>
        rw [hentry] at hno
        cases entry with
        | directory | link _ => rfl
        | file content executable readable =>
            cases executable with
            | false => rfl
            | true => exact absurd rfl hno

theorem ask_noTool (h : r.Kept snapshot settings) {call : Call}
    (hrelease : call.fromRelease? = none)
    (hno : call.tool? = none ∨ snapshot.isXWindow = false) : r.ask call = .ok (.found false) := by
  rw [Run.ask_eq h, ask_of_no_tool hrelease (h.isFor.1.symm ▸ hno)]

theorem ask_answers_tool (h : r.Kept snapshot settings) {call : Call}
    (hrelease : call.fromRelease? = none) : ∃ b, r.ask call = .ok (.found b) := by
  cases hx : snapshot.isXWindow with
  | false => exact ⟨false, ask_noTool h hrelease (.inr hx)⟩
  | true =>
      cases htool : call.tool? with
      | none => exact ⟨false, ask_noTool h hrelease (.inl htool)⟩
      | some tool =>
          exact (keeps_tool hx tool).ask_answers h (fun w => ⟨_, rfl⟩) (if_pos htool)

/-! ## The headline theorem -/

/-- How calls come out at a point of a run. -/
structure Degrades (snapshot : Snapshot) (settings : Settings) (r : Run) : Prop where
  /-- Whether a tool is there can be asked at all times. -/
  tool_answers : ∀ call : Call, call.fromRelease? = none → ∃ b, r.ask call = .ok (.found b)
  /-- Entries can be asked for at all times, if the path can be one. -/
  release_answers : ¬ GarbledPath snapshot settings →
    ∀ (call : Call) (answer : Dictionary Text → Answer), call.fromRelease? = some answer →
      ∃ entries, r.ask call = .ok (answer entries)
  /-- No entries from a file that cannot be read, and none ever after. -/
  release_fails : ¬ GarbledPath snapshot settings → r.stored.release = .unset →
    NoRelease snapshot settings r.world → ∀ call : Call, call.fromRelease?.isSome →
      r.ask call = .ok call.failed
        ∧ Settled Call.fromRelease? Probes.release [] (r.next (.call call))
  /-- No tool that cannot be found, and not ever after. -/
  tool_fails : snapshot.isXWindow = true → ∀ tool : DesktopTool,
    r.stored.view.cell tool = .unset → NoTool settings tool r.world →
      ∀ call : Call, call.tool? = some tool →
        r.ask call = .ok call.failed
          ∧ Settled (Call.fromTool? tool) (·.cell tool) false (r.next (.call call))
  /-- A tool that is not looked for is not there. -/
  no_tool : ∀ call : Call, call.fromRelease? = none →
    call.tool? = none ∨ snapshot.isXWindow = false → r.ask call = .ok call.failed
  /-- With a path that cannot be one every call for entries fails, and none
  leaves anything in the cell. -/
  garbled : GarbledPath snapshot settings → r.stored.release = .unset
    ∧ ∀ call : Call, call.fromRelease?.isSome → r.ask call = .error .embeddedNul

/-- **Looks that fail are answers that are kept**, wherever a run has come to;
but not if the path of the release file holds U+0000. -/
theorem follow_degrades (snapshot : Snapshot) (settings : Settings) (w : World)
    (steps : List Step) :
    Degrades snapshot settings ((Run.start snapshot settings w).follow steps) := by
  have hstart := Run.kept_start snapshot settings w
  have h := hstart.follow steps
  exact {
    tool_answers := fun call hrelease => ask_answers_tool h hrelease
    release_answers := fun hpath call answer hasks =>
      keeps_release.ask_answers h (exists_releaseIn hpath) hasks
    release_fails := fun hpath hunset hno call hasks =>
      keeps_release.settled h (fun _ _ => Call.failed_of_fromRelease)
        (view_release_eq_unset.mpr hunset) (releaseIn_of_noRelease hpath hno) hasks
    tool_fails := fun hx tool hunset hno call htool =>
      (keeps_tool hx tool).settled h
        (fun call answer hasks => by
          obtain ⟨-, hrelease, rfl⟩ := Call.fromTool?_eq_some hasks
          exact (Call.failed_of_not_fromRelease hrelease).symm)
        hunset (congrArg Except.ok (toolIn_of_noTool hno))
        (by rw [Call.fromTool?, if_pos htool]; rfl)
    no_tool := fun call hrelease hno => by
      rw [ask_noTool h hrelease hno, Call.failed_of_not_fromRelease hrelease]
    garbled := fun hpath => by
      have hlook := releaseIn_of_garbledPath hpath
      have hunset := keeps_release.follow_unset hstart (fun w => ⟨_, hlook w⟩) rfl steps
      refine ⟨view_release_eq_unset.mp hunset, fun call hasks => ?_⟩
      obtain ⟨answer, hanswer⟩ := Option.isSome_iff_exists.mp hasks
      rw [(keeps_release.run_ask h hanswer).1, hunset, hlook]
      rfl }

/-- Probes of a Linux, not asked anything yet, in a world with nothing in it. -/
def garbledRun : Run :=
  .start { osName := "Linux" } { releaseFile := "a\x00b" }
    ⟨[], ⟨[], [], [], [], [], [], [], [], none, none⟩, ⟨[], []⟩, ⟨none, []⟩⟩

/-- Settings with such a path are accepted. The first call for entries raises, and behind it the
cell is still unset. -/
theorem garbledRun_raises :
    Settings.ofJson (.obj [("os_release_path", .str "a\x00b")]) = .ok garbledRun.stored.settings
      ∧ garbledRun.ask .osRelease = .error .embeddedNul
      ∧ (garbledRun.next (.call .osRelease)).stored.release = .unset :=
  ⟨rfl, rfl, rfl⟩

end HostFacts.Probes
