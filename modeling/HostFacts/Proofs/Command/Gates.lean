import HostFacts.Proofs.Command.Layouts
import HostFacts.Proofs.Command.Spelling
import HostFacts.Proofs.Traversal
import HostFacts.Proofs.Version.Reaching

/-!
# Gates on the command line

The versions that are to be reached may be given in any number and any order. Each
of them is a gate, and no two gates have a name in common, neither within their
group nor across the groups (`Wanted.name_injective`). So the answers, which are
kept by name, are one for each gate: those of the system before those of the
runtime, each where it was first asked for (`gates_of_answered`). Hence the exit
status is the conjunction of all that was asked. If a comparison fails, the first
that does ends the run, and nothing is shown (`gates_of_unanswered`).

The probes are not used for any of this, and to ask for the release as well is to
ask for nothing more (`reportOf_of_wanted`).
-/

namespace HostFacts.Command

/-! ## What is asked for -/

/-- A version that is to be reached, by the system or by the runtime. -/
inductive Wanted
  | os (version : Text)
  | runtime (version : Text)
deriving Repr, DecidableEq

namespace Wanted

def version : Wanted → Text
  | os v => v
  | runtime v => v

/-- The name that the gate is reported under. -/
def name : Wanted → Text
  | os v => Text.ofString "os>=" ++ v
  | runtime v => Text.ofString "runtime>=" ++ v

def ask (s : Snapshot) : Wanted → Except Numeral.TooLong Bool
  | os v => s.osVersionAtLeast (some v)
  | runtime v => s.runtimeVersionAtLeast (some v)

/-- The comparison comes to an answer. -/
def IsAnswered (s : Snapshot) (g : Wanted) : Prop := ∃ b, g.ask s = .ok b

/-- The version is not above that of the snapshot, in the numeric order. -/
def IsReached (s : Snapshot) : Wanted → Prop
  | os v => toLex (Version.sequence v) ≤ toLex (Version.sequence s.osVersion)
  | runtime v => toLex (Version.sequence v) ≤ toLex (Version.sequence s.runtimeVersion)

/-- The gate by name with its answer. -/
def told (s : Snapshot) (g : Wanted) : Except Numeral.TooLong (Text × Bool) := do
  return (g.name, ← g.ask s)

/-- The answer, if there is one. -/
def isOpen (s : Snapshot) (g : Wanted) : Bool :=
  match g.ask s with
  | .ok b => b
  | .error _ => false

theorem name_injective : Function.Injective name := by
  intro g g' h
  cases g with
  | os v =>
      cases g' with
      | os v' => exact congrArg os (List.append_cancel_left h)
      | runtime v' =>
          have hhead : some (CodePoint.scalar 'o') = some (.scalar 'r') := congrArg List.head? h
          exact absurd hhead (by decide)
  | runtime v =>
      cases g' with
      | os v' =>
          have hhead : some (CodePoint.scalar 'r') = some (.scalar 'o') := congrArg List.head? h
          exact absurd hhead (by decide)
      | runtime v' => exact congrArg runtime (List.append_cancel_left h)

variable {s : Snapshot} {g : Wanted}

theorem IsAnswered.ask_eq (h : g.IsAnswered s) : g.ask s = .ok (g.isOpen s) := by
  obtain ⟨b, hb⟩ := h
  rw [isOpen, hb]

theorem IsAnswered.isOpen_iff (h : g.IsAnswered s) : g.isOpen s = true ↔ g.IsReached s := by
  have hask := h.ask_eq
  cases g with
  | os v => exact (Version.atLeast_eq_ok_iff.mp hask).2
  | runtime v => exact (Version.atLeast_eq_ok_iff.mp hask).2

theorem IsAnswered.told_eq (h : g.IsAnswered s) : g.told s = .ok (g.name, g.isOpen s) := by
  rw [told, h.ask_eq]
  rfl

theorem isAnswered_iff : g.IsAnswered s ↔ ∃ pair, g.told s = .ok pair := by
  rw [IsAnswered, told]
  cases g.ask s with
  | error e => exact ⟨nofun, nofun⟩
  | ok b => exact ⟨fun _ => ⟨_, rfl⟩, fun _ => ⟨b, rfl⟩⟩

theorem ask_of_told {e : Numeral.TooLong} (h : g.told s = .error e) : g.ask s = .error e := by
  rw [told] at h
  cases hask : g.ask s with
  | error e' =>
      rw [hask] at h
      obtain rfl : e' = e := Except.error.inj h
      rfl
  | ok b =>
      rw [hask] at h
      cases h

theorem isJoined_name (h : g.version.isJoined = true) : g.name.isJoined = true := by
  cases g with
  | os v => exact Text.isJoined_append (by decide) h
  | runtime v => exact Text.isJoined_append (by decide) h

theorem isWellFormed_name (h : g.version.isWellFormed = true) : g.name.isWellFormed = true := by
  cases g with
  | os v => exact Text.isWellFormed_append (by decide) h
  | runtime v => exact Text.isWellFormed_append (by decide) h

theorem isWellFormed_lineOf (h : g.version.isWellFormed = true) (b : Bool) :
    (lineOf (g.name, .flag b)).isWellFormed = true := by
  have hflag : (Fact.flag b).display.isWellFormed = true := by cases b <;> decide
  have hcolon : Text.isWellFormed ": " = true := by decide
  exact Text.isWellFormed_append (Text.isWellFormed_append (isWellFormed_name h) hcolon) hflag

end Wanted

/-- All gates that the options ask for. -/
def Options.wanted (o : Options) : List Wanted :=
  o.osVersions.map .os ++ o.runtimeVersions.map .runtime

/-- The gates of the system and behind them those of the runtime, each once and in the order in
which they were first asked for. -/
def Options.distinct (o : Options) : List Wanted :=
  o.osVersions.eraseDups.map .os ++ o.runtimeVersions.eraseDups.map .runtime

theorem mem_distinct_iff {o : Options} {g : Wanted} : g ∈ o.distinct ↔ g ∈ o.wanted := by
  simp only [Options.distinct, Options.wanted, List.mem_append, List.mem_map, List.mem_eraseDups]

theorem isEmpty_versions {o : Options} (h : o.wanted ≠ []) :
    (o.osVersions.isEmpty && o.runtimeVersions.isEmpty) = false := by
  rw [Bool.eq_false_iff]
  intro hempty
  obtain ⟨hos, hruntime⟩ := Bool.and_eq_true_iff.mp hempty
  refine h ?_
  rw [Options.wanted, List.isEmpty_iff.mp hos, List.isEmpty_iff.mp hruntime]
  rfl

/-! ## One answer for each gate -/

/-- Values by the names of the gates are one for each gate. -/
theorem ofPairs_wanted {α : Type} (value : Wanted → α) (o : Options) :
    Dictionary.ofPairs (o.wanted.map fun g => (g.name, value g))
      = o.distinct.map fun g => (g.name, value g) := by
  have hos : Function.Injective fun v => (Wanted.os v).name := fun v v' h =>
    Wanted.os.inj (Wanted.name_injective h)
  have hruntime : Function.Injective fun v => (Wanted.runtime v).name := fun v v' h =>
    Wanted.runtime.inj (Wanted.name_injective h)
  have hosPairs := Dictionary.ofPairs_map hos (fun v => value (.os v)) o.osVersions
  have hruntimePairs :=
    Dictionary.ofPairs_map hruntime (fun v => value (.runtime v)) o.runtimeVersions
  rw [Options.wanted, Options.distinct, List.map_append, List.map_append, List.map_map,
    List.map_map, List.map_map, List.map_map, Dictionary.ofPairs_append,
    Dictionary.overwrite_of_disjoint (Dictionary.nodup_ofPairs _)]
  · exact congrArg₂ (· ++ ·) hosPairs hruntimePairs
  · -- a name of both groups would be that of two gates
    intro name hname hname'
    obtain ⟨pair, hpair, rfl⟩ := List.mem_map.mp hname
    obtain ⟨pair', hpair', heq⟩ := List.mem_map.mp hname'
    obtain ⟨v, -, rfl⟩ := List.mem_map.mp (Dictionary.mem_of_mem_ofPairs hpair)
    obtain ⟨v', -, rfl⟩ := List.mem_map.mp (Dictionary.mem_of_mem_ofPairs hpair')
    have hcross : Wanted.runtime v' = Wanted.os v := Wanted.name_injective heq
    cases hcross

theorem nodup_names_distinct (o : Options) : (o.distinct.map Wanted.name).Nodup := by
  have hnodup := Dictionary.nodup_ofPairs (o.wanted.map fun g => (g.name, ()))
  rw [ofPairs_wanted, List.map_map] at hnodup
  exact hnodup

theorem gates_eq (s : Snapshot) (o : Options) :
    gates s o = (o.wanted.mapM (Wanted.told s)).map .ofPairs := by
  rw [Options.wanted, List.mapM_append, List.mapM_map, List.mapM_map]
  have hboth (xs ys : Except Numeral.TooLong (List (Text × Bool))) :
      (do return Dictionary.ofPairs ((← xs) ++ (← ys)) : Except Numeral.TooLong _)
        = Except.map Dictionary.ofPairs (do return (← xs) ++ (← ys)) := by
    cases xs <;> cases ys <;> rfl
  exact hboth _ _

variable {s : Snapshot} {o : Options}

theorem gates_of_answered (h : ∀ g ∈ o.wanted, g.IsAnswered s) :
    gates s o = .ok (o.distinct.map fun g => (g.name, g.isOpen s)) := by
  rw [gates_eq, mapM_of_ok fun g hg => (h g hg).told_eq, ← ofPairs_wanted]
  rfl

theorem gates_of_unanswered (h : ∃ g ∈ o.wanted, ¬ g.IsAnswered s) :
    ∃ before g after e, o.wanted = before ++ g :: after ∧ (∀ g' ∈ before, g'.IsAnswered s)
      ∧ g.ask s = .error e ∧ gates s o = .error e := by
  simp only [Wanted.isAnswered_iff] at h ⊢
  obtain ⟨before, g, after, e, hwanted, hbefore, hfails, hall⟩ := mapM_of_not_ok h
  refine ⟨before, g, after, e, hwanted, hbefore, Wanted.ask_of_told hfails, ?_⟩
  rw [gates_eq, hall]
  rfl

/-! ## The report -/

/-- Gates are reported of the snapshot, and nothing else is asked for. -/
theorem reportOf_of_wanted (h : o.wanted ≠ []) (p : Probes) (w : World) :
    reportOf p w o
      = .ofExcept (((gates p.snapshot o).mapError .numeral).map .ofGates) := by
  rw [reportOf, isEmpty_versions h]
  cases gates p.snapshot o <;> rfl

theorem report_release (h : o.wanted ≠ []) (w : World) :
    report w { o with release := true } = report w o := by
  have hreportOf (p : Probes) : reportOf p w { o with release := true } = reportOf p w o := by
    rw [reportOf_of_wanted h, reportOf_of_wanted]
    · rfl
    · exact h
  unfold report
  simp only [hreportOf]

theorem runReport_release (h : o.wanted ≠ []) (w : World) :
    runReport w { o with release := true } = runReport w o := by
  rw [runReport, runReport, report_reportWorld, report_reportWorld, report_release h]
  rfl

theorem report_of_probes {w : World} {p : Probes} (h : o.wanted ≠ [])
    (hp : (probesFor w o.settingsFile).result = .ok p) :
    (report w o).result = ((gates p.snapshot o).mapError .numeral).map .ofGates
      ∧ (report w o).messages = (probesFor w o.settingsFile).messages := by
  have hreportOf := reportOf_of_wanted h p w
  have hmessages : (reportOf p w o).messages = [] := by
    rw [hreportOf]
    cases gates p.snapshot o <;> rfl
  constructor
  · rw [report, Attempt.result_bind, hp, ← Attempt.result_ofExcept (Except.map _ _), ← hreportOf]
    rfl
  · show (Attempt.bind _ _).messages = _
    unfold Attempt.bind
    simp only [hp, hmessages, List.append_nil]

end HostFacts.Command
