import HostFacts.Proofs.Debugging
import HostFacts.Proofs.FileTree.Without
import HostFacts.Proofs.Process
import HostFacts.Proofs.Settings.Places

/-!
# Rejected settings leave no trace

A file that is there and has no settings counts as much as no file: in the tree
with the file and in the one without it every command line that goes by it comes
to the same, and so does every sequence of inquiries. Both worlds start from the
defaults, with the file because it has no settings and without it because it is
not there. From then on the file tree is only looked at for the files of the
default probes, whose ways keep clear of what was taken out. A session keeps the
defaults for good, so this carries over to all of its answers.
-/

namespace HostFacts

/-- The world with nothing at a location of its file tree. -/
def World.without (w : World) (l : Location) : World := { w with files := w.files.without l }

namespace Settings

/-- The files that the probes look at under the default settings. -/
def defaultProbeFiles : List Path :=
  let defaults : Settings := {}
  Path.ofText defaults.releaseFile ::
    DesktopTool.all.map fun tool => (Path.ofText defaults.executableDirectory).child tool.name

/-- A location neither is nor holds a file of the default probes, or anything on the way to one. -/
def ClearOfProbes (tree : FileTree) (l : Location) : Prop :=
  ∀ p ∈ defaultProbeFiles, ∀ x ∈ tree.way p, ¬ l <+: x

instance (tree : FileTree) (l : Location) : Decidable (ClearOfProbes tree l) :=
  inferInstanceAs (Decidable (∀ p ∈ defaultProbeFiles, ∀ x ∈ tree.way p, ¬ l <+: x))

section Rejected

variable {w : World} {l : Location} {place path : Path}

/-! ## Both worlds start from the defaults -/

theorem ClearOfProbes.ne_nil (h : ClearOfProbes w.files l) : l ≠ [] := by
  rintro rfl
  have hshort :
      ¬ FileTree.maxPathBytes < (FileTree.bytesOf (Path.ofText "/etc/os-release").text).length := by
    decide
  exact h _ (List.mem_cons_self ..) _ (FileTree.startOf_mem_way hshort) List.nil_prefix

theorem loadFile_without (hl : l ≠ []) (hpath : w.expandHome place = .ok path)
    (hentry : l ∈ w.files.way path) : (loadFile (w.without l) place).result = .ok none := by
  have hpath' : (w.without l).expandHome place = .ok path := hpath
  have hgone : (w.without l).fileExists path = .ok false := by
    rw [World.fileExists]
    show ((w.files.without l).contains path).mapError _ = _
    rw [FileTree.contains_without_of_hit hl ⟨l, hentry, List.prefix_rfl⟩]
    rfl
  have hnone : ofFile (w.without l) path = .ok none := by
    rw [ofFile, hgone]
    rfl
  rw [loadFile_result, hpath']
  show Except.ok (ofFile (w.without l) path).toOption.join = _
  rw [hnone]
  rfl

/-! ## The default probes see the same -/

theorem sameLooks_without (hl : ClearOfProbes w.files l) {p : Probes} (hp : p.settings = {}) :
    p.SameLooks w (w.without l) := by
  have hentry (file : Path) (hfile : file ∈ defaultProbeFiles) :
      w.files.entry file = (w.without l).files.entry file :=
    (FileTree.entry_without_of_clear hl.ne_nil (hl file hfile)).symm
  refine ⟨?_, fun tool => ?_⟩
  · rw [World.readText_eq, World.readText_eq, FileTree.content, FileTree.content, hentry]
    rw [hp]
    exact List.mem_cons_self ..
  · unfold World.isExecutable FileTree.isExecutable FileTree.entry?
    rw [hentry]
    rw [hp]
    refine List.mem_cons_of_mem _ (List.mem_map.mpr ⟨tool, ?_, rfl⟩)
    cases tool <;> decide

/-! ## Sessions -/

/-- Whatever probes the session has go by the defaults. -/
def Defaulted (session : Session) : Prop := ∀ p, session.probes = .set p → p.settings = {}

theorem defaulted_unset : Defaulted {} := by
  intro p hp
  cases hp

theorem start_of_defaults (h : (loadDefault w).result = .ok {}) :
    (Session.start w).result
      = (Snapshot.detect w.host w.env {}).result.map fun snapshot =>
        { snapshot, settings := {} } := by
  rw [Session.start_result, h]
  rfl

theorem settings_of_get {session : Session} {p : Probes} (hsession : Defaulted session)
    (h : (loadDefault w).result = .ok {})
    (hget : session.probes.get (Session.start w).result = (.ok p, .set p)) : p.settings = {} := by
  obtain ⟨cell⟩ := session
  cases cell with
  | set p' =>
      obtain rfl : p' = p := Once.set.inj (congrArg Prod.snd hget)
      exact hsession p' rfl
  | unset =>
      cases hstart : (Session.start w).result with
      | error failure =>
          rw [hstart] at hget
          cases hget
      | ok started =>
          rw [hstart] at hget
          cases hget
          obtain ⟨settings, snapshot, hsettings, -, rfl⟩ := Session.start_eq_ok hstart
          exact Except.ok.inj (hsettings.symm.trans h)

/-- One inquiry comes to the same in both worlds, and leaves the same session. -/
theorem make_without (hl : ClearOfProbes w.files l) (h : (loadDefault w).result = .ok {})
    (h' : (loadDefault (w.without l)).result = .ok {}) {session : Session}
    (hsession : Defaulted session) (inquiry : Process.Inquiry) :
    (inquiry.make session w).1.result = (inquiry.make session (w.without l)).1.result
      ∧ (inquiry.make session w).2 = (inquiry.make session (w.without l)).2
      ∧ Defaulted (inquiry.make session w).2 := by
  have hstart : (Session.start w).result = (Session.start (w.without l)).result := by
    rw [start_of_defaults h, start_of_defaults h']
    rfl
  rcases session.get_start_cases w with ⟨p, hget⟩ | ⟨failure, hget⟩
  · have hp := settings_of_get hsession h hget
    obtain ⟨hresult, hafter⟩ := inquiry.make_of_ok hget
    obtain ⟨hresult', hafter'⟩ := inquiry.make_of_ok (hstart ▸ hget)
    rw [← inquiry.answer_congr (sameLooks_without hl hp)] at hresult' hafter'
    refine ⟨hresult.trans hresult'.symm, hafter.trans hafter'.symm, ?_⟩
    intro p' hp'
    rw [hafter] at hp'
    rw [← Once.set.inj hp', inquiry.settings_answer, hp]
  · obtain ⟨hresult, hafter⟩ := inquiry.make_of_error hget
    obtain ⟨hresult', hafter'⟩ := inquiry.make_of_error (hstart ▸ hget)
    refine ⟨hresult.trans hresult'.symm, hafter.trans hafter'.symm, ?_⟩
    intro p' hp'
    rw [hafter] at hp'
    cases hp'

theorem interview_without (hl : ClearOfProbes w.files l) (h : (loadDefault w).result = .ok {})
    (h' : (loadDefault (w.without l)).result = .ok {}) (inquiries : List Process.Inquiry)
    (process : Process) (hprocess : Defaulted process.session) :
    (process.run (Process.interview w inquiries)).map Process.Record.seen
      = (process.run (Process.interview (w.without l) inquiries)).map Process.Record.seen := by
  induction inquiries generalizing process with
  | nil => rfl
  | cons inquiry inquiries ih =>
      obtain ⟨hresult, hafter, hdefaulted⟩ := make_without hl h h' hprocess inquiry
      rw [Process.map_seen_interview_cons, Process.map_seen_interview_cons, ← hresult, ← hafter]
      exact congrArg _ (ih _ hdefaulted)

/-! ## The command -/

/-- The command line goes by the settings at a place: if it asks for a report, that is where it
looks for them, and it is not refused on account of a settings file that may not be read. -/
structure GoesBy (w : World) (place : Path) (arguments : List Text) : Prop where
  looksAt : ∀ o, Command.Request.ofArguments arguments = .ok (.report o) →
    ∃ t, Command.settingsPlace w o.settingsFile = .ok t ∧ Path.ofText t = place
  mayRead : ∀ o, Command.Request.ofArguments arguments = .ok (.report o) →
    Command.unreadableSettings? w o = none

theorem report_without (hl : ClearOfProbes w.files l) {o : Command.Options}
    (h : (Command.settingsFor w o.settingsFile).result = .ok {})
    (h' : (Command.settingsFor (w.without l) o.settingsFile).result = .ok {}) :
    (Command.report w o).result = (Command.report (w.without l) o).result := by
  rw [Command.report_result, Command.report_result, h, h']
  show (Snapshot.detect w.host w.env {}).result.bind _
    = (Snapshot.detect w.host w.env {}).result.bind _
  cases (Snapshot.detect w.host w.env {}).result with
  | error failure => rfl
  | ok snapshot =>
      show (Command.reportOf _ w o).result = (Command.reportOf _ (w.without l) o).result
      rw [Command.reportOf_congr (sameLooks_without hl rfl)]

theorem runReport_without (hl : ClearOfProbes w.files l) {o : Command.Options}
    (hread : Command.unreadableSettings? w o = none)
    (h : (Command.settingsFor w o.settingsFile).result = .ok {})
    (h' : (Command.settingsFor (w.without l) o.settingsFile).result = .ok {}) :
    (Command.runReport w o).output = (Command.runReport (w.without l) o).output
      ∧ (Command.runReport w o).ending = (Command.runReport (w.without l) o).ending := by
  have hread' : Command.unreadableSettings? (w.without l) o = none := by
    refine Option.eq_none_iff_forall_not_mem.mpr fun file hfile => ?_
    obtain ⟨hgiven, hunreadable⟩ := Option.mem_filter_iff.mp hfile
    have hfile' : file ∈ Command.unreadableSettings? w o :=
      Option.mem_filter_iff.mpr
        ⟨hgiven, FileTree.leadsToUnreadable_of_without hl.ne_nil hunreadable⟩
    rw [hread] at hfile'
    cases hfile'
  have hrefusal : Command.refusal? w o = Command.refusal? (w.without l) o := by
    rw [Command.refusal?, Command.refusal?, hread, hread']
  exact Command.runReport_congr rfl hrefusal fun _ => report_without hl h h'

/-! ## The headline theorem -/

/-- Two worlds come to the same for whoever goes by the settings at a place, in the output and the
ending of the command and, at the default place, in all that a session answers and keeps. -/
structure SameFor (place : Path) (w w' : World) : Prop where
  command : ∀ arguments, GoesBy w place arguments →
    (Command.run w arguments).output = (Command.run w' arguments).output
      ∧ (Command.run w arguments).ending = (Command.run w' arguments).ending
  session : defaultPath w = .ok place → ∀ inquiries,
    (Process.run {} (Process.interview w inquiries)).map Process.Record.seen
      = (Process.run {} (Process.interview w' inquiries)).map Process.Record.seen

/-- **Rejected settings leave no trace.** If no settings are loaded from a place, it makes no
difference to take away what the place leads to, a link on the way there or a directory around
it, as long as this keeps clear of the files of the default probes. -/
theorem rejected_sameFor (hpath : w.expandHome place = .ok path)
    (hrejected : (loadFile w place).result = .ok none) (hentry : l ∈ w.files.way path)
    (hclear : ClearOfProbes w.files l) : SameFor place w (w.without l) := by
  have hgone := loadFile_without hclear.ne_nil hpath hentry
  refine ⟨fun arguments hgoes => ?_, fun hdefault inquiries => ?_⟩
  · rw [Command.run, Command.run]
    cases hrequest : Command.Request.ofArguments arguments with
    | error e => exact ⟨rfl, rfl⟩
    | ok request =>
        cases request with
        | help | version => exact ⟨rfl, rfl⟩
        | report o =>
            obtain ⟨t, hplace, rfl⟩ := hgoes.looksAt o hrequest
            have hplace' : Command.settingsPlace (w.without l) o.settingsFile = .ok t := hplace
            refine runReport_without hclear (hgoes.mayRead o hrequest) ?_ ?_
            · rw [Command.settingsFor_of_place hplace, hrejected]
              rfl
            · rw [Command.settingsFor_of_place hplace', hgone]
              rfl
  · have hdefault' : defaultPath (w.without l) = .ok place := hdefault
    refine interview_without hclear ?_ ?_ inquiries {} defaulted_unset
    · rw [loadDefault_of_place hdefault, hrejected]
      rfl
    · rw [loadDefault_of_place hdefault', hgone]
      rfl

end Rejected

/-- Settings with a fact that could be overridden beside a directory that has no name. -/
def halfValid : Text :=
  "\x7b\"overrides\": \x7b\"osName\": \"BeOS\"\x7d, \"executableDir\": \"\"\x7d"

def halfValidWorld : World where
  env := [("HOME", "/h")]
  host := ⟨"Linux", "6.1", [], [], [], [], [], [], none, none⟩
  files := ⟨[(["h"], .directory), (["h", fileName], .file (Utf8.encode halfValid) false),
    (["etc"], .directory), (["etc", "os-release"], .file (Utf8.encode "NAME=Plan") false)], []⟩
  accounts := ⟨none, []⟩

theorem rejected_sameFor_halfValid :
    halfValidWorld.files.entry? (.ofText "/h/.hostinfo-settings.json")
        = .ok (some (.file (Utf8.encode halfValid) false))
      ∧ SameFor (.ofText "/h/.hostinfo-settings.json") halfValidWorld
        (halfValidWorld.without ["h", fileName]) := by
  have hpath : halfValidWorld.expandHome (.ofText "/h/.hostinfo-settings.json")
      = .ok (.ofText "/h/.hostinfo-settings.json") := by decide +kernel
  exact ⟨by decide +kernel, rejected_sameFor hpath (by decide +kernel) (by decide +kernel)
    (by decide +kernel)⟩

end Settings

end HostFacts
