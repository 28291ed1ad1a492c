import HostFacts.Proofs.Command.Gates

/-!
# Runs that answer gates

A command line that asks for gates is answered as a whole by its exit status and gate
by gate by what it shows (`ShowsGates`), as JSON or in lines. If a comparison fails
nothing is shown. Whether the release is asked for as well makes no difference.

Lines go through a console that leaves out control sequences, so that a gate may be
shown under the name of another, and that stops at a line with a surrogate in it
(`run_confusesGates`). What is said of lines is said as far as that.
-/

namespace HostFacts.Command

/-! ## Requests -/

theorem ofArguments_of_read {arguments : List Text} {items : List Item}
    (hread : readArguments arguments = .ok items) (hreport : ∀ item ∈ items, item.request? = none) :
    Request.ofArguments arguments = .ok (.report (.ofItems items)) := by
  rw [Request.ofArguments, hread]
  show Except.ok (Request.ofItems items) = _
  rw [Request.ofItems, List.findSome?_eq_none_iff.mpr hreport]
  rfl

theorem ofItems_release (before after : List Item) :
    Options.ofItems (before ++ .switch .release :: after)
      = { Options.ofItems (before ++ after) with release := true } := by
  unfold Options.ofItems valuesOf
  simp

/-! ## What is shown -/

/-- The item tells under the name of the gate whether it is reached. -/
def Reports (s : Snapshot) (g : Wanted) (item : Text × Fact) : Prop :=
  ∃ b, item = (g.name, .flag b) ∧ (b = true ↔ g.IsReached s)

/-- All distinct gates are shown with their own answers, and the outcome ends with the
conjunction of all that was asked. -/
structure ShowsGates (outcome : Outcome) (o : Options) (s : Snapshot) (items : Dictionary Fact) :
    Prop where
  reported : List.Forall₂ (Reports s) o.distinct items
  nodup : (items.map Prod.fst).Nodup
  object : o.json = true → outcome.output = (objectOf items).pretty ++ ("\n" : Text)
  reads : o.json = true → (∀ g ∈ o.wanted, g.version.isJoined = true) →
    Json.read outcome.output = .ok (objectOf items)
  lines : o.json = false → (∀ g ∈ o.wanted, g.version.isWellFormed = true) →
    ∃ lines, List.Forall₂ ShownAs items lines
      ∧ outcome.output = lines.flatMap fun line => line ++ ("\n" : Text)
  ending : (o.json = true ∨ ∀ g ∈ o.wanted, g.version.isWellFormed = true) →
    ((∀ g ∈ o.wanted, g.IsReached s) → outcome.ending = .ok 0)
      ∧ (¬ (∀ g ∈ o.wanted, g.IsReached s) → outcome.ending = .ok 1)

section Shown

variable {s : Snapshot} {o : Options}

/-- The items of gates. -/
def itemsOf (s : Snapshot) (gates : List Wanted) : Dictionary Fact :=
  gates.map fun g => (g.name, .flag (g.isOpen s))

theorem names_itemsOf (s : Snapshot) (gates : List Wanted) :
    (itemsOf s gates).map Prod.fst = gates.map Wanted.name := List.map_map ..

theorem nodup_itemsOf (s : Snapshot) (o : Options) :
    ((itemsOf s o.distinct).map Prod.fst).Nodup := by
  rw [names_itemsOf]
  exact nodup_names_distinct o

theorem ofGates_items (gates : List Wanted) :
    (Report.ofGates (gates.map fun g => (g.name, g.isOpen s))).items = itemsOf s gates := by
  rw [Report.ofGates, List.map_map]
  rfl

theorem ofGates_status (h : ∀ g ∈ o.wanted, g.IsAnswered s) :
    ((∀ g ∈ o.wanted, g.IsReached s) →
        (Report.ofGates (o.distinct.map fun g => (g.name, g.isOpen s))).status = 0)
      ∧ (¬ (∀ g ∈ o.wanted, g.IsReached s) →
        (Report.ofGates (o.distinct.map fun g => (g.name, g.isOpen s))).status = 1) := by
  have hall : (o.distinct.map fun g => (g.name, g.isOpen s)).all (·.2) = true
      ↔ ∀ g ∈ o.wanted, g.IsReached s := by
    rw [List.all_map, List.all_eq_true]
    simp only [mem_distinct_iff]
    exact forall₂_congr fun g hg => (h g hg).isOpen_iff
  rw [← hall]
  exact ⟨fun hopen => if_pos hopen, fun hclosed => if_neg hclosed⟩

theorem readsBack_itemsOf (h : ∀ g ∈ o.wanted, g.version.isJoined = true) :
    ReadsBack (itemsOf s o.distinct) where
  nodup := nodup_itemsOf s o
  names name hname := by
    rw [names_itemsOf] at hname
    obtain ⟨g, hg, rfl⟩ := List.mem_map.mp hname
    exact Wanted.isJoined_name (h g (mem_distinct_iff.mp hg))
  facts item hitem := by
    obtain ⟨g, -, rfl⟩ := List.mem_map.mp hitem
    exact Fact.isJoined_flag _

theorem isWellFormed_itemsOf (h : ∀ g ∈ o.wanted, g.version.isWellFormed = true) :
    ∀ item ∈ itemsOf s o.distinct, (lineOf item).isWellFormed = true := by
  intro item hitem
  obtain ⟨g, hg, rfl⟩ := List.mem_map.mp hitem
  exact Wanted.isWellFormed_lineOf (h g (mem_distinct_iff.mp hg)) _

theorem reports_itemsOf (h : ∀ g ∈ o.wanted, g.IsAnswered s) :
    List.Forall₂ (Reports s) o.distinct (itemsOf s o.distinct) := by
  rw [itemsOf, List.forall₂_map_right_iff, List.forall₂_same]
  intro g hg
  exact ⟨_, rfl, (h g (mem_distinct_iff.mp hg)).isOpen_iff⟩

theorem showsGates_of_shows {outcome : Outcome} (h : ∀ g ∈ o.wanted, g.IsAnswered s)
    (hshows : outcome.Shows o.json (.ofGates (o.distinct.map fun g => (g.name, g.isOpen s)))) :
    ShowsGates outcome o s (itemsOf s o.distinct) := by
  have hobject : o.json = true →
      outcome.output = (objectOf (itemsOf s o.distinct)).pretty ++ ("\n" : Text) := by
    intro hjson
    rw [(hshows.object hjson).1, ofGates_items]
  have hwell : (∀ g ∈ o.wanted, g.version.isWellFormed = true) →
      ∀ item ∈ (Report.ofGates (o.distinct.map fun g => (g.name, g.isOpen s))).items,
        (lineOf item).isWellFormed = true := by
    rw [ofGates_items]
    exact isWellFormed_itemsOf
  refine ⟨reports_itemsOf h, nodup_itemsOf s o, hobject, fun hjson hjoined => ?_,
    fun hjson hversions => ?_, fun hshown => ?_⟩
  · rw [hobject hjson]
    exact (readsBack_itemsOf hjoined).read
  · rw [hjson] at hshows
    have hlines := hshows.allLines (hwell hversions)
    rwa [ofGates_items] at hlines
  · obtain ⟨hreached, hmissed⟩ := ofGates_status h
    rw [hshows.ending_eq (hshown.imp_right hwell)]
    exact ⟨fun hall => congrArg Except.ok (hreached hall),
      fun hnot => congrArg Except.ok (hmissed hnot)⟩

end Shown

/-! ## The headline theorem -/

/-- The arguments are read as items that ask for gates, and the snapshot is taken. -/
structure ReachesGates (w : World) (arguments : List Text) (items : List Item) (p : Probes) :
    Prop where
  read : readArguments arguments = .ok items
  report : ∀ item ∈ items, item.request? = none
  wanted : (Options.ofItems items).wanted ≠ []
  accepted : refusal? w (.ofItems items) = none
  made : (probesFor w (Options.ofItems items).settingsFile).result = .ok p

/-- A run answers what its items ask of a snapshot. -/
structure AnswersGates (w : World) (arguments : List Text) (items : List Item) (s : Snapshot) :
    Prop where
  shows : (∀ g ∈ (Options.ofItems items).wanted, g.IsAnswered s) →
    ∃ shown, ShowsGates (run w arguments) (.ofItems items) s shown
  /-- The first comparison that fails ends the run. -/
  fails : (∃ g ∈ (Options.ofItems items).wanted, ¬ g.IsAnswered s) →
    (run w arguments).output = [] ∧ ∃ before g after e,
      (Options.ofItems items).wanted = before ++ g :: after ∧ (∀ g' ∈ before, g'.IsAnswered s)
        ∧ g.ask s = .error e ∧ (run w arguments).ending = .error (.numeral e)
  release : ∀ before after arguments', items = before ++ after →
    readArguments arguments' = .ok (before ++ .switch .release :: after) →
      run w arguments' = run w arguments
  /-- Behind the snapshot there is nothing that the world is asked for, and nothing is logged. -/
  unprobed : ∀ settings w' release,
    reportOf { snapshot := s, settings } w' { Options.ofItems items with release }
      = reportOf { snapshot := s, settings } w (.ofItems items)
  quiet : (report w (.ofItems items)).messages
    = (probesFor w (Options.ofItems items).settingsFile).messages

theorem ReachesGates.answers {w : World} {arguments : List Text} {items : List Item} {p : Probes}
    (h : ReachesGates w arguments items p) : AnswersGates w arguments items p.snapshot := by
  have hrequest := ofArguments_of_read h.read h.report
  have hrun := run_of_report hrequest h.accepted
  obtain ⟨hresult, hmessages⟩ := report_of_probes h.wanted h.made
  refine ⟨fun hall => ?_, fun hnot => ?_, ?_, fun settings w' release => ?_, hmessages⟩
  · rw [gates_of_answered hall] at hresult
    rw [hrun]
    exact ⟨_, showsGates_of_shows hall (Outcome.shows_ofReport _ _ hresult)⟩
  · obtain ⟨before, g, after, e, hwanted, hbefore, hfails, hgates⟩ := gates_of_unanswered hnot
    rw [hgates] at hresult
    obtain ⟨houtput, hending⟩ := Outcome.ofReport_of_error (reportWorld w (.ofItems items)).env
      (Options.ofItems items).json hresult
    rw [hrun]
    exact ⟨houtput, before, g, after, e, hwanted, hbefore, hfails, hending⟩
  · rintro before after arguments' rfl hread
    obtain ⟨hbefore, hafter⟩ := List.forall_mem_append.mp h.report
    have hreport : ∀ item ∈ before ++ .switch .release :: after, item.request? = none :=
      List.forall_mem_append.mpr ⟨hbefore, List.forall_mem_cons.mpr ⟨rfl, hafter⟩⟩
    rw [run, run, hrequest, ofArguments_of_read hread hreport, ofItems_release]
    exact runReport_release h.wanted w
  · rw [reportOf_of_wanted h.wanted, reportOf_of_wanted]
    · rfl
    · exact h.wanted

/-- **The exit status answers all gates at once.** However the gates are written and mixed on the
command line, each of them is reported once with its own answer, and the status says whether all
are reached. -/
theorem run_answersGates :
    (∀ items arguments, CommandLine items arguments → readArguments arguments = .ok items)
      ∧ ∀ w arguments items p, ReachesGates w arguments items p →
        AnswersGates w arguments items p.snapshot := by
  constructor
  · intro items arguments h
    exact h.read
  · intro w arguments items p h
    exact h.answers

/-- Two gates of the system about one of the runtime, the first written as one argument and
repeated. -/
theorem run_answersGates_repeated :
    ∃ p, (probesFor astralWorld none).result = .ok p
      ∧ CommandLine [.setting .osAtLeast "6", .setting .runtimeAtLeast "4", .setting .osAtLeast "6"]
        ["--os-at-least=6", "--runtime-at-least", "4", "--os-at-least", "6"]
      ∧ AnswersGates astralWorld
        ["--os-at-least=6", "--runtime-at-least", "4", "--os-at-least", "6"]
        [.setting .osAtLeast "6", .setting .runtimeAtLeast "4", .setting .osAtLeast "6"] p.snapshot
      ∧ (run astralWorld ["--os-at-least=6", "--runtime-at-least", "4", "--os-at-least", "6"]).output
        = "os>=6: true\nruntime>=4: false\n" := by
  have hos : Flag.ofLongName? "--os-at-least" = some (.setting .osAtLeast) := by decide
  have hruntime : Flag.ofLongName? "--runtime-at-least" = some (.setting .runtimeAtLeast) := by
    decide
  have hline : CommandLine
      [.setting .osAtLeast "6", .setting .runtimeAtLeast "4", .setting .osAtLeast "6"]
      ["--os-at-least=6", "--runtime-at-least", "4", "--os-at-least", "6"] :=
    .cons (.joined hos "6") (.cons (.setting hruntime "4") (.cons (.setting hos "6") .nil))
  have hmade : (probesFor astralWorld none).result.toOption.isSome = true := by decide +kernel
  obtain ⟨p, hp⟩ := Option.isSome_iff_exists.mp hmade
  have hp' := toOption_eq_some_iff.mp hp
  obtain ⟨hread, hanswers⟩ := run_answersGates
  refine ⟨p, hp', hline, hanswers _ _ _ p ⟨hread _ _ hline, by decide, by decide, ?_, hp'⟩, ?_⟩
  · decide +kernel
  · decide +kernel

/-- The Linux of an earlier release. -/
def earlyWorld : World := { astralWorld with host := { astralWorld.host with release := "5" } }

/-- Of two gates the console shows the first under the name of the second. A gate that is reached,
and whose name holds half a pair of surrogates, ends in a failure. -/
theorem run_confusesGates :
    (run earlyWorld ["--os-at-least", "\x1b[31m6", "--os-at-least", "6"]).output
        = "os>=6: true\nos>=6: false\n"
      ∧ (run earlyWorld ["--os-at-least", [.surrogate ⟨0, by decide⟩]]).ending
        = .error (.unencodable (.surrogate ⟨0, by decide⟩) 4 1) := by
  constructor <;> decide +kernel

end HostFacts.Command
