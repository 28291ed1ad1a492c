import HostFacts.Proofs.Command.GateRuns

/-!
# The command and a session report the same host

A run of the command that leaves the settings at their default place shows what a
fresh process is told by its session, item by item, each gate as if it were the only
thing that was asked for (`mem_items_iff`). In JSON the command shows something just
if no inquiry of that process fails, and fails itself just if one does. The items can
be read back as they were, since their names are all different and their texts have no
pairs of surrogates.

Lines go through the console, and so these runs tell less (`run_tellsOtherwise`). A
gate may be shown under the name of another. A line with a surrogate in it cannot be
written: the command stops there and fails, although all inquiries are answered. So it
fails just if an inquiry does as far as all its lines can be written
(`ReportsSession.fails`); for gates that is a matter of the versions asked for
(`ReportsSession.gatesFail`).
-/

namespace HostFacts.Command

open Process (Inquiry answers)

/-! ## Runs -/

/-- The command line asks for a report and leaves the settings at their default place. -/
structure Asks (arguments : List Text) (o : Options) : Prop where
  request : Request.ofArguments arguments = .ok (.report o)
  noFile : o.settingsFile = none
  noOperands : o.operands = []

theorem Asks.run_eq {arguments : List Text} {o : Options} (h : Asks arguments o) (w : World) :
    run w arguments
      = .ofReport (reportWorld w o).env o.json (report w o) := by
  refine run_of_report h.request ?_
  rw [refusal?, unreadableSettings?, h.noFile, h.noOperands]
  rfl

/-! ## Command lines -/

/-- The arguments that ask for gates, and nothing else. -/
def gateArguments (osVersions runtimeVersions : List Text) : List Text :=
  osVersions.flatMap (fun v => [("--os-at-least" : Text), v])
    ++ runtimeVersions.flatMap fun v => [("--runtime-at-least" : Text), v]

def gateOptions (osVersions runtimeVersions : List Text) : Options where
  debug := false
  settingsFile := none
  json := false
  release := false
  osVersions := osVersions
  runtimeVersions := runtimeVersions
  operands := []

theorem readArguments_settings {name : Text} {s : Setting} (hoption : name ≠ hyphens)
    (hread : readArgument name = .ok ⟨[], some (s, name)⟩) (versions arguments : List Text) :
    readArguments (versions.flatMap (fun v => [name, v]) ++ arguments)
      = (readArguments arguments).map ((versions.map (Item.setting s)) ++ ·) := by
  induction versions with
  | nil =>
      rw [List.flatMap_nil, List.nil_append]
      cases readArguments arguments <;> rfl
  | cons v versions ih =>
      rw [List.flatMap_cons, List.append_assoc, List.cons_append, List.cons_append, List.nil_append,
        readArguments_setting hoption hread, ih]
      cases readArguments arguments <;> rfl

/-- What is read of them. -/
def gateItems (osVersions runtimeVersions : List Text) : List Item :=
  osVersions.map (.setting .osAtLeast) ++ runtimeVersions.map (.setting .runtimeAtLeast)

theorem readArguments_gateArguments (osVersions runtimeVersions : List Text) :
    readArguments (gateArguments osVersions runtimeVersions)
      = .ok (gateItems osVersions runtimeVersions) := by
  have hos (arguments : List Text) :
      readArguments (osVersions.flatMap (fun v => [("--os-at-least" : Text), v]) ++ arguments)
        = (readArguments arguments).map (osVersions.map (Item.setting .osAtLeast) ++ ·) :=
    readArguments_settings (by decide) (by decide) osVersions arguments
  have hruntime :
      readArguments (runtimeVersions.flatMap (fun v => [("--runtime-at-least" : Text), v]) ++ [])
        = (readArguments []).map (runtimeVersions.map (Item.setting .runtimeAtLeast) ++ ·) :=
    readArguments_settings (by decide) (by decide) runtimeVersions []
  rw [List.append_nil] at hruntime
  rw [gateArguments, hos, hruntime]
  show Except.ok (_ ++ (_ ++ [])) = _
  rw [List.append_nil, gateItems]

theorem valuesOf_settings (s s' : Setting) (values : List Text) :
    valuesOf (values.map (.setting s')) s = if s' = s then values else [] := by
  induction values with
  | nil => exact (ite_self []).symm
  | cons v values ih =>
      rw [valuesOf] at ih ⊢
      rw [List.map_cons, List.filterMap_cons, ih]
      by_cases hs : s' = s <;> simp [hs]

theorem valuesOf_gateItems (osVersions runtimeVersions : List Text) (s : Setting) :
    valuesOf (gateItems osVersions runtimeVersions) s
      = (if Setting.osAtLeast = s then osVersions else [])
        ++ if Setting.runtimeAtLeast = s then runtimeVersions else [] := by
  rw [← valuesOf_settings, ← valuesOf_settings, gateItems, valuesOf, List.filterMap_append]
  rfl

theorem mem_gateItems {osVersions runtimeVersions : List Text} {item : Item}
    (h : item ∈ gateItems osVersions runtimeVersions) : ∃ s v, item = .setting s v := by
  rcases List.mem_append.mp h with h | h
  · obtain ⟨v, -, rfl⟩ := List.mem_map.mp h
    exact ⟨_, v, rfl⟩
  · obtain ⟨v, -, rfl⟩ := List.mem_map.mp h
    exact ⟨_, v, rfl⟩

/-- Whatever the versions look like, they are asked for. -/
theorem asks_gateArguments (osVersions runtimeVersions : List Text) :
    Asks (gateArguments osVersions runtimeVersions) (gateOptions osVersions runtimeVersions) := by
  refine ⟨?_, rfl, rfl⟩
  have hswitch (s : Switch) : Item.switch s ∉ gateItems osVersions runtimeVersions := by
    intro hmem
    obtain ⟨s', v, heq⟩ := mem_gateItems hmem
    cases heq
  have hrequest : (gateItems osVersions runtimeVersions).findSome? Item.request? = none := by
    rw [List.findSome?_eq_none_iff]
    intro item hitem
    obtain ⟨s, v, rfl⟩ := mem_gateItems hitem
    rfl
  have hoperands : (Options.ofItems (gateItems osVersions runtimeVersions)).operands = [] := by
    refine List.filterMap_eq_nil_iff.mpr fun item hitem => ?_
    obtain ⟨s, v, rfl⟩ := mem_gateItems hitem
    rfl
  have hoptions : Options.ofItems (gateItems osVersions runtimeVersions)
      = gateOptions osVersions runtimeVersions := by
    unfold Options.ofItems at hoperands ⊢
    dsimp only at hoperands
    simp [hoperands, hswitch, valuesOf_gateItems, gateOptions]
  rw [Request.ofArguments, readArguments_gateArguments]
  show Except.ok (Request.ofItems _) = _
  rw [Request.ofItems, hrequest, Option.getD_none, hoptions]

/-! ## What a session has to report -/

/-- The inquiry that asks for a gate. -/
def Wanted.inquiry : Wanted → Inquiry
  | os v => .isOsVersionAtLeast (some v)
  | runtime v => .isRuntimeVersionAtLeast (some v)

section Started

variable {w : World} {p : Probes} {o : Options}

/-- A session that has something to report has started. -/
theorem exists_start {r : Report} (h : sessionReport? w o = some r) :
    ∃ p, (Session.start w).result = .ok p := by
  cases hstart : (Session.start w).result with
  | ok p => exact ⟨p, rfl⟩
  | error failure =>
      rw [sessionReport?_of_error hstart] at h
      cases h

/-- If no gates are asked for but the release is, these are the facts of the snapshot, and behind
them four answers of the probes. -/
theorem sessionReport?_eq_some_iff_of_release (hwanted : o.wanted = [])
    (hrelease : o.release = true) {r : Report} :
    sessionReport? w o = some r ↔ ∃ s facts name version xdgOpen xdgMime,
      answers w (.getSnapshot :: releaseInquiries)
          = [.ok (.snapshot s), .ok (.found (.entry name)), .ok (.found (.entry version)),
            .ok (.found (.found xdgOpen)), .ok (.found (.found xdgMime))]
        ∧ s.facts = .ok facts ∧ r = ⟨facts ++ releaseItems name version xdgOpen xdgMime, 0⟩ := by
  have hempty : (o.osVersions.isEmpty && o.runtimeVersions.isEmpty) = true := by
    rw [Options.wanted, List.append_eq_nil_iff, List.map_eq_nil_iff, List.map_eq_nil_iff] at hwanted
    rw [hwanted.1, hwanted.2]
    rfl
  have hreport : sessionReport? w o
      = (factsOf? (answers w (.getSnapshot :: releaseInquiries))).map fun facts => ⟨facts, 0⟩ := by
    rw [sessionReport?, inquiriesFor_of_facts hempty, hrelease]
    exact if_pos hempty
  constructor
  · intro hr
    obtain ⟨p, hstart⟩ := exists_start hr
    rw [hreport, Process.answers_of_ok hstart] at hr
    obtain ⟨facts, hfacts, rfl⟩ := Option.map_eq_some_iff.mp hr
    obtain ⟨found, more, hfound, hmore, rfl⟩ := factsOf?_eq_some hfacts
    rcases releaseOf?_eq_some hmore with
      ⟨hnil, -⟩ | ⟨name, version, xdgOpen, xdgMime, hanswers, rfl⟩
    · cases hnil
    · rw [Process.answers_of_ok hstart]
      exact ⟨p.snapshot, found, name, version, xdgOpen, xdgMime, congrArg _ hanswers, hfound, rfl⟩
  · rintro ⟨s, facts, name, version, xdgOpen, xdgMime, hanswers, hfacts, rfl⟩
    rw [hreport, hanswers, factsOf?, hfacts]
    rfl

/-- A fresh process that asks for one gate is told what the snapshot says. -/
theorem answers_inquiry (h : (Session.start w).result = .ok p) (g : Wanted) :
    answers w [g.inquiry] = [((g.ask p.snapshot).mapError .numeral).map .flag] := by
  rw [Process.answers_of_ok h]
  cases g <;> rfl

theorem isAnswered_iff_answers (h : (Session.start w).result = .ok p) (g : Wanted) :
    g.IsAnswered p.snapshot ↔ ¬ ∃ failure, answers w [g.inquiry] = [.error failure] := by
  rw [answers_inquiry h, Wanted.IsAnswered]
  cases g.ask p.snapshot with
  | ok b =>
      refine ⟨fun _ hfails => ?_, fun _ => ⟨b, rfl⟩⟩
      obtain ⟨failure, hfailure⟩ := hfails
      cases hfailure
  | error e =>
      refine ⟨fun hok => ?_, fun hnot => absurd ⟨_, rfl⟩ hnot⟩
      obtain ⟨b, hb⟩ := hok
      cases hb

/-- What a session has to report if gates are asked for: all of them, if all are answered. -/
theorem sessionReport?_eq_some_iff_of_wanted (h : (Session.start w).result = .ok p)
    (hwanted : o.wanted ≠ []) {r : Report} :
    sessionReport? w o = some r ↔ (∀ g ∈ o.wanted, g.IsAnswered p.snapshot)
      ∧ r = .ofGates (o.distinct.map fun g => (g.name, g.isOpen p.snapshot)) := by
  rw [sessionReport?_of_ok h, reportOf_of_wanted hwanted]
  by_cases hall : ∀ g ∈ o.wanted, g.IsAnswered p.snapshot
  · rw [gates_of_answered hall]
    exact ⟨fun hr => ⟨hall, (Option.some.inj hr).symm⟩, fun hr => congrArg some hr.2.symm⟩
  · have hnot : ∃ g ∈ o.wanted, ¬ g.IsAnswered p.snapshot := by simpa using hall
    obtain ⟨_, _, _, e, -, -, -, hgates⟩ := gates_of_unanswered hnot
    rw [hgates]
    exact ⟨nofun, fun hr => absurd hr.1 hall⟩

/-- What is reported of gates is each of them, as it is told to a process that asks for nothing
else. -/
theorem mem_items_iff (hwanted : o.wanted ≠ []) {r : Report} (hr : sessionReport? w o = some r)
    (item : Text × Fact) :
    item ∈ r.items ↔ ∃ g ∈ o.wanted, ∃ b,
      item = (g.name, .flag b) ∧ answers w [g.inquiry] = [.ok (.flag b)] := by
  obtain ⟨p, hstart⟩ := exists_start hr
  obtain ⟨hall, rfl⟩ := (sessionReport?_eq_some_iff_of_wanted hstart hwanted).mp hr
  have hanswers (g : Wanted) (hg : g ∈ o.wanted) :
      answers w [g.inquiry] = [.ok (.flag (g.isOpen p.snapshot))] := by
    rw [answers_inquiry hstart, (hall g hg).ask_eq]
    rfl
  rw [ofGates_items, itemsOf, List.mem_map]
  constructor
  · rintro ⟨g, hg, rfl⟩
    exact ⟨g, mem_distinct_iff.mp hg, _, rfl, hanswers g (mem_distinct_iff.mp hg)⟩
  · rintro ⟨g, hg, b, rfl, hanswer⟩
    refine ⟨g, mem_distinct_iff.mpr hg, ?_⟩
    rw [hanswers g hg] at hanswer
    cases hanswer
    rfl

/-- There is nothing to report of gates just if there is no snapshot or a gate fails. -/
theorem sessionReport?_eq_none_iff_of_wanted (hwanted : o.wanted ≠ []) :
    sessionReport? w o = none ↔ (∃ failure, answers w [.getSnapshot] = [.error failure])
      ∨ ∃ g ∈ o.wanted, ∃ failure, answers w [g.inquiry] = [.error failure] := by
  cases hstart : (Session.start w).result with
  | error failure =>
      refine ⟨fun _ => .inl ⟨failure, ?_⟩, fun _ => sessionReport?_of_error hstart o⟩
      exact Process.answers_of_error hstart _
  | ok p =>
      have hsnapshot : ¬ ∃ failure, answers w [.getSnapshot] = [.error failure] := by
        rw [Process.answers_of_ok hstart]
        exact nofun
      rw [or_iff_right hsnapshot, Option.eq_none_iff_forall_ne_some]
      constructor
      · intro hnone
        by_contra hno
        have hall (g : Wanted) (hg : g ∈ o.wanted) : g.IsAnswered p.snapshot :=
          (isAnswered_iff_answers hstart g).mpr fun hfails => hno ⟨g, hg, hfails⟩
        exact hnone _ ((sessionReport?_eq_some_iff_of_wanted hstart hwanted).mpr ⟨hall, rfl⟩)
      · rintro ⟨g, hg, hfails⟩ r hr
        obtain ⟨hall, -⟩ := (sessionReport?_eq_some_iff_of_wanted hstart hwanted).mp hr
        exact (isAnswered_iff_answers hstart g).mp (hall g hg) hfails

end Started

/-! ## Runs that report a session -/

/-- An outcome that shows what there is to report, and is a failure where there is nothing. -/
structure Matches (w : World) (o : Options) (outcome : Outcome) : Prop where
  shows : ∀ r, sessionReport? w o = some r → outcome.Shows o.json r
  silent : sessionReport? w o = none →
    outcome.output = [] ∧ ∃ failure, outcome.ending = .error failure

/-- A run of the command reports what a fresh process is told by its session. -/
structure ReportsSession (w : World) (arguments : List Text) (o : Options) : Prop
    extends Matches w o (run w arguments) where
  /-- There is something to report just if no inquiry fails. -/
  tells : (∃ r, sessionReport? w o = some r)
    ↔ ∀ answer ∈ answers w (inquiriesFor o), ¬ Fails answer
  /-- In JSON something is shown just if there is something to report. -/
  prints : o.json = true →
    ((run w arguments).output ≠ [] ↔ ∀ answer ∈ answers w (inquiriesFor o), ¬ Fails answer)
  reads : o.json = true → w.IsJoined →
    (∀ v ∈ o.osVersions ++ o.runtimeVersions, v.isJoined = true) →
    ∀ r, sessionReport? w o = some r →
      Json.read (run w arguments).output = .ok (objectOf r.items)
  /-- Otherwise there is a line for each item, as far as lines can be written. -/
  lines : o.json = false → ∀ r, sessionReport? w o = some r →
    ∃ lines, List.Forall₂ ShownAs (r.items.takeWhile fun item => (lineOf item).isWellFormed) lines
      ∧ (run w arguments).output = lines.flatMap fun line => line ++ ("\n" : Text)
  /-- Facts are told as those of the snapshot, the release as the session tells it after that. -/
  release : o.wanted = [] → o.release = true → ∀ r, sessionReport? w o = some r
    ↔ ∃ s facts name version xdgOpen xdgMime,
      answers w (.getSnapshot :: releaseInquiries)
          = [.ok (.snapshot s), .ok (.found (.entry name)), .ok (.found (.entry version)),
            .ok (.found (.found xdgOpen)), .ok (.found (.found xdgMime))]
        ∧ s.facts = .ok facts ∧ r = ⟨facts ++ releaseItems name version xdgOpen xdgMime, 0⟩
  /-- All gates that were asked for are told, with the answer to a process that asks for nothing
  else. -/
  gates : o.wanted ≠ [] → ∀ r, sessionReport? w o = some r → ∀ item, item ∈ r.items
    ↔ ∃ g ∈ o.wanted, ∃ b, item = (g.name, .flag b) ∧ answers w [g.inquiry] = [.ok (.flag b)]
  /-- The command fails as the inquiries do, if it can write what it has to. -/
  fails : (o.json = true ∨ ∀ r, sessionReport? w o = some r →
      ∀ item ∈ r.items, (lineOf item).isWellFormed = true) →
    ((∃ failure, (run w arguments).ending = .error failure)
      ↔ ∃ answer ∈ answers w (inquiriesFor o), Fails answer)
  gatesFail : o.wanted ≠ [] → (o.json = true ∨ ∀ g ∈ o.wanted, g.version.isWellFormed = true) →
    ((∃ failure, (run w arguments).ending = .error failure)
      ↔ (∃ failure, answers w [.getSnapshot] = [.error failure])
        ∨ ∃ g ∈ o.wanted, ∃ failure, answers w [g.inquiry] = [.error failure])

section Reports

variable {w : World} {arguments : List Text} {o : Options} {outcome : Outcome}

theorem tells_iff (w : World) (o : Options) :
    (∃ r, sessionReport? w o = some r)
      ↔ ∀ answer ∈ answers w (inquiriesFor o), ¬ Fails answer := by
  rw [← Option.ne_none_iff_exists', ne_eq, sessionReport?_eq_none_iff]
  exact ⟨fun hno answer hmem hfails => hno ⟨answer, hmem, hfails⟩,
    fun hno ⟨answer, hmem, hfails⟩ => hno answer hmem hfails⟩

theorem Matches.fails_iff (h : Matches w o outcome)
    (hwell : o.json = true ∨ ∀ r, sessionReport? w o = some r →
      ∀ item ∈ r.items, (lineOf item).isWellFormed = true) :
    (∃ failure, outcome.ending = .error failure) ↔ sessionReport? w o = none := by
  refine ⟨fun ⟨failure, hfailure⟩ => ?_, fun hnone => (h.silent hnone).2⟩
  by_contra hsome
  obtain ⟨r, hr⟩ := Option.ne_none_iff_exists'.mp hsome
  rw [(h.shows r hr).ending_eq (hwell.imp_right fun hall => hall r hr)] at hfailure
  cases hfailure

theorem Matches.prints_iff (h : Matches w o outcome) (hjson : o.json = true) :
    outcome.output ≠ [] ↔ ∃ r, sessionReport? w o = some r := by
  rw [← Option.ne_none_iff_exists']
  refine ⟨fun houtput hnone => houtput (h.silent hnone).1, fun hsome => ?_⟩
  obtain ⟨r, hr⟩ := Option.ne_none_iff_exists'.mp hsome
  rw [((h.shows r hr).object hjson).1]
  exact List.append_ne_nil_of_right_ne_nil _ (by decide)

theorem isWellFormed_items (hwanted : o.wanted ≠ [])
    (hversions : ∀ g ∈ o.wanted, g.version.isWellFormed = true) {r : Report}
    (hr : sessionReport? w o = some r) :
    ∀ item ∈ r.items, (lineOf item).isWellFormed = true := by
  obtain ⟨p, hstart⟩ := exists_start hr
  obtain ⟨-, rfl⟩ := (sessionReport?_eq_some_iff_of_wanted hstart hwanted).mp hr
  rw [ofGates_items]
  exact isWellFormed_itemsOf hversions

theorem Asks.matches {place : Path} (hplace : Settings.defaultPath w = .ok place)
    (h : Asks arguments o) : Matches w o (run w arguments) := by
  have hreport := report_toOption hplace h.noFile
  rw [h.run_eq]
  refine ⟨fun r hr => ?_, fun hnone => ?_⟩
  · exact Outcome.shows_ofReport _ _ (toOption_eq_some_iff.mp (hreport.trans hr))
  · rw [hnone] at hreport
    cases hresult : (report w o).result with
    | ok r =>
        rw [hresult] at hreport
        cases hreport
    | error failure =>
        obtain ⟨houtput, hending⟩ := Outcome.ofReport_of_error (reportWorld w o).env o.json hresult
        exact ⟨houtput, failure, hending⟩

end Reports

/-! ## The headline theorem -/

/-- **The command and a session report the same host**, in every world in which the default place
of the settings can be located. -/
theorem run_reportsSession {w : World} {place : Path}
    (hplace : Settings.defaultPath w = .ok place) {arguments : List Text} {o : Options}
    (h : Asks arguments o) : ReportsSession w arguments o := by
  have hmatches := h.matches hplace
  refine ⟨hmatches, tells_iff w o, fun hjson => ?_, fun hjson hw hversions r hr => ?_,
    fun hjson r hr => ?_,
    fun hwanted hrelease r => sessionReport?_eq_some_iff_of_release hwanted hrelease,
    fun hwanted r hr => mem_items_iff hwanted hr, fun hwell => ?_, fun hwanted hwell => ?_⟩
  · rw [hmatches.prints_iff hjson, tells_iff]
  · have hreport := (report_toOption hplace h.noFile).trans hr
    rw [((hmatches.shows r hr).object hjson).1]
    exact (readsBack_report hw hversions (toOption_eq_some_iff.mp hreport)).read
  · have hshows := hmatches.shows r hr
    rw [hjson] at hshows
    exact hshows.shownLines
  · rw [hmatches.fails_iff hwell, sessionReport?_eq_none_iff]
  · rw [← sessionReport?_eq_none_iff_of_wanted hwanted]
    exact hmatches.fails_iff (hwell.imp_right fun hversions r hr =>
      isWellFormed_items hwanted hversions hr)

/-- A desktop with settings that override a fact. -/
def deskWorld : World where
  env := [("HOME", "/h"), ("XDG_CURRENT_DESKTOP", "KDE")]
  host := ⟨"Linux", "6.1.0", "#1", [], "x86_64", "CPython", "3.12.1", "3.12.1 (main)", some 8, none⟩
  files := ⟨[(["h"], .directory),
    (["h", Settings.fileName],
      .file (Utf8.encode "\x7b\"overrides\": \x7b\"osName\": \"BeOS\"\x7d\x7d") false),
    (["etc"], .directory), (["etc", "os-release"], .file (Utf8.encode "NAME=Plan") false),
    (["usr"], .directory), (["usr", "bin"], .directory),
    (["usr", "bin", "xdg-open"], .file [] true)], []⟩
  accounts := ⟨none, []⟩

def factOptions : Options where
  debug := false
  settingsFile := none
  json := true
  release := true
  osVersions := []
  runtimeVersions := []
  operands := []

theorem run_reportsSession_desk :
    deskWorld.IsJoined
      ∧ (sessionReport? deskWorld factOptions).isSome = true
      ∧ ReportsSession deskWorld ["--json", "--release"] factOptions
      ∧ ReportsSession deskWorld (gateArguments ["6.2"] ["3"]) (gateOptions ["6.2"] ["3"]) := by
  have hplace : Settings.defaultPath deskWorld = .ok (.ofText "/h/.hostinfo-settings.json") := by
    decide +kernel
  have hasks : Asks ["--json", "--release"] factOptions := ⟨by decide +kernel, rfl, rfl⟩
  refine ⟨⟨by decide +kernel, by decide +kernel⟩, by decide +kernel, ?_, ?_⟩
  · exact run_reportsSession hplace hasks
  · exact run_reportsSession hplace (asks_gateArguments _ _)

/-- The desktop has the two halves of a character for its name. -/
def pairWorld : World := { deskWorld with
  env := [("HOME", "/h"), ("XDG_CURRENT_DESKTOP", [.surrogate 0x3D, .surrogate 0x600])] }

/-- The desktop has that character for its name. -/
def faceWorld : World := { deskWorld with env := [("HOME", "/h"), ("XDG_CURRENT_DESKTOP", "😀")] }

/-- The command fails although a gate is answered, since the name of the gate holds a byte that is
part of no character. A gate that is reached is shown under the name of one that is not. And two
worlds with different names for the desktop are shown as one. -/
theorem run_tellsOtherwise :
    Settings.defaultPath deskWorld = .ok (.ofText "/h/.hostinfo-settings.json")
      ∧ answers deskWorld [.isOsVersionAtLeast (some [.surrogate 0x480])] = [.ok (.flag true)]
      ∧ (run deskWorld ["--os-at-least", [.surrogate 0x480]]).ending
        = .error (.unencodable (.surrogate 0x480) 4 1)
      ∧ answers deskWorld [.isRuntimeVersionAtLeast (some "4")] = [.ok (.flag false)]
      ∧ (run deskWorld ["--runtime-at-least", "\x1b[31m4"]).output = "runtime>=4: true\n"
      ∧ (sessionReport? pairWorld factOptions).map Report.items
        ≠ (sessionReport? faceWorld factOptions).map Report.items
      ∧ (run pairWorld ["--json", "--release"]).output
        = (run faceWorld ["--json", "--release"]).output := by
  refine ⟨?_, ?_, ?_, ?_, ?_, ?_, ?_⟩ <;> decide +kernel

end HostFacts.Command
