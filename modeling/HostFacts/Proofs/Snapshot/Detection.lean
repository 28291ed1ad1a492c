import HostFacts.Attempt
import HostFacts.Snapshot.Detection
import HostFacts.Snapshot.Facts

/-!
# When a snapshot can be taken

A snapshot is observed, overridden by the settings and checked as a record. Two of
the three cannot fail. Whatever is observed is of the kind that its field asks for,
and so is what the settings put in its place, so that the merged record passes its
check and is read as the snapshot that is taken (`check_overrideMembers`). What the
host or the environment does not say is left empty. Only the kernel's version file
is read as text, on Linux, and nothing is done about a file that is not UTF-8: that
is the one failure (`detect_eq_error_iff`).
-/

namespace HostFacts

/-! ## The kernel's version file -/

namespace HostRecord

/-- The kernel's version file where it is looked at, which is on Linux alone. -/
def kernelFile? (host : HostRecord) : Option (List UInt8) :=
  if host.platform = .linux then host.kernelVersion else none

/-- The file is a text, and it mentions the maker of the subsystem and so its version. -/
inductive TellsSubsystem (host : HostRecord) : Text → Prop
  | first {bytes : List UInt8} {t : Text} (hfile : host.kernelFile? = some bytes)
      (hread : Utf8.decode bytes = .ok t)
      (hmaker : Text.occursIn "microsoft" (Text.lower t) = true)
      (hsecond : Text.occursIn "wsl2" (Text.lower t) = false)
      (hstandard : Text.occursIn "microsoft-standard" (Text.lower t) = false) :
      TellsSubsystem host "1"
  | second {bytes : List UInt8} {t : Text} (hfile : host.kernelFile? = some bytes)
      (hread : Utf8.decode bytes = .ok t)
      (hmaker : Text.occursIn "microsoft" (Text.lower t) = true)
      (hsecond : Text.occursIn "wsl2" (Text.lower t) = true
        ∨ Text.occursIn "microsoft-standard" (Text.lower t) = true) :
      TellsSubsystem host "2"

variable {host : HostRecord}

theorem wslVersion_of_noFile (h : host.kernelFile? = none) : host.wslVersion = .ok none := by
  unfold kernelFile? at h
  unfold wslVersion
  cases hplatform : host.platform with
  | linux =>
      rw [if_pos hplatform] at h
      rw [h]
  | macos | windows | unknown => rfl

theorem wslVersion_of_file {bytes : List UInt8} (h : host.kernelFile? = some bytes) :
    host.wslVersion
      = match Utf8.decode bytes with
        | .ok kernel => .ok (subsystemVersion? kernel)
        | .error fault => .error (.undecodable fault) := by
  unfold kernelFile? at h
  split at h
  · rename_i hplatform
    unfold wslVersion
    cases hdecode : Utf8.decode bytes with
    | ok kernel => simp only [hplatform, h, hdecode]
    | error fault => simp only [hplatform, h, hdecode]
  · cases h

theorem wslVersion_eq_error_iff {failure : Failure} :
    host.wslVersion = .error failure ↔ ∃ bytes fault, host.kernelFile? = some bytes
      ∧ Utf8.decode bytes = .error fault ∧ failure = .undecodable fault := by
  cases hfile : host.kernelFile? with
  | none =>
      rw [wslVersion_of_noFile hfile]
      exact ⟨nofun, fun ⟨_, _, h, _⟩ => nomatch h⟩
  | some bytes =>
      rw [wslVersion_of_file hfile]
      cases hread : Utf8.decode bytes with
      | ok t =>
          refine ⟨nofun, ?_⟩
          rintro ⟨_, fault, ⟨⟩, hfault, -⟩
          cases hread.symm.trans hfault
      | error fault =>
          refine ⟨fun h => ⟨bytes, fault, rfl, hread, (Except.error.inj h).symm⟩, ?_⟩
          rintro ⟨_, fault', ⟨⟩, hfault, rfl⟩
          cases hread.symm.trans hfault
          rfl

theorem subsystemVersion?_eq_some_iff {t version : Text} :
    subsystemVersion? t = some version ↔ Text.occursIn "microsoft" (Text.lower t) = true
      ∧ version = if Text.occursIn "wsl2" (Text.lower t)
          || Text.occursIn "microsoft-standard" (Text.lower t) then "2" else "1" := by
  unfold subsystemVersion?
  dsimp only
  cases Text.occursIn "microsoft" (Text.lower t) with
  | false => exact ⟨nofun, fun h => nomatch h.1⟩
  | true =>
      cases Text.occursIn "wsl2" (Text.lower t)
          || Text.occursIn "microsoft-standard" (Text.lower t) with
      | false => exact ⟨fun h => ⟨rfl, (Option.some.inj h).symm⟩, fun h => congrArg some h.2.symm⟩
      | true => exact ⟨fun h => ⟨rfl, (Option.some.inj h).symm⟩, fun h => congrArg some h.2.symm⟩

/-- A version that is found is told by the file. -/
theorem tellsSubsystem_iff {found : Option Text} (h : host.wslVersion = .ok found)
    (version : Text) : found = some version ↔ host.TellsSubsystem version := by
  cases hfile : host.kernelFile? with
  | none =>
      rw [wslVersion_of_noFile hfile] at h
      cases h
      refine ⟨nofun, fun htells => ?_⟩
      cases htells with
      | first hfile' => cases hfile.symm.trans hfile'
      | second hfile' => cases hfile.symm.trans hfile'
  | some bytes =>
      rw [wslVersion_of_file hfile] at h
      cases hread : Utf8.decode bytes with
      | error fault =>
          rw [hread] at h
          cases h
      | ok t =>
          rw [hread] at h
          obtain rfl := Except.ok.inj h
          rw [subsystemVersion?_eq_some_iff]
          constructor
          · rintro ⟨hmaker, rfl⟩
            split
            · rename_i hsecond
              exact .second hfile hread hmaker (Bool.or_eq_true_iff.mp hsecond)
            · rename_i hfirst
              obtain ⟨hsecond, hstandard⟩ := Bool.or_eq_false_iff.mp (Bool.eq_false_iff.mpr hfirst)
              exact .first hfile hread hmaker hsecond hstandard
          · rintro (⟨hfile', hread', hmaker, hsecond, hstandard⟩ | ⟨hfile', hread', hmaker, hsecond⟩)
            · cases hfile.symm.trans hfile'
              cases hread.symm.trans hread'
              exact ⟨hmaker, by rw [hsecond, hstandard]; rfl⟩
            · cases hfile.symm.trans hfile'
              cases hread.symm.trans hread'
              exact ⟨hmaker, by rw [Bool.or_eq_true_iff.mpr hsecond]; rfl⟩

end HostRecord

namespace Snapshot

/-! ## Records of facts -/

/-- The fields of a snapshot as the members of a JSON object. -/
def members (s : Snapshot) : Dictionary Json := s.fields.map fun (name, fact) => (name, fact.json)

/-- The members, with those replaced that the settings override. -/
def overrideMembers (members : Dictionary Json) (o : Overrides) : Dictionary Json :=
  o.pairs.foldl (fun d (name, value) => Dictionary.put name (.str value) d) members

theorem member_eq_accept {α : Type} {members : Dictionary Json} {name : Text} {j : Json} {a : α}
    {absent : Verdict α} {check : Json → Verdict α} (hget : members.get? name = some j)
    (hcheck : check j = .accept a) : Verdict.member members name absent check = .accept a := by
  rw [Verdict.member, hget]
  show Verdict.under name (check j) = .accept a
  rw [hcheck]
  rfl

theorem optional_text (o : Option Text) :
    Verdict.optional .text (Fact.ofText? o).json = .accept o := by
  cases o <;> rfl

theorem optional_truthValue (o : Option Bool) :
    Verdict.optional .truthValue (Fact.ofFlag? o).json = .accept o := by
  cases o <;> rfl

/-- Whatever a snapshot says, the record of it passes the check and is read as that snapshot. -/
theorem check_members (s : Snapshot) : check (.obj s.members) = .accept s := by
  have htext {name t : Text} {absent : Verdict Text} (h : s.members.get? name = some (.str t)) :
      Verdict.member s.members name absent .text = .accept t := member_eq_accept h rfl
  have hflag : Verdict.member s.members "screen_menu_bar" (pure false) .truthValue
      = .accept s.screenMenuBar := member_eq_accept rfl rfl
  have hforced : Verdict.member s.members "case_sensitive_fs_override" (pure none)
      (.optional .truthValue) = .accept s.caseSensitive :=
    member_eq_accept rfl (optional_truthValue s.caseSensitive)
  have hmodel : Verdict.member s.members "arch_data_model" (pure none) (.optional .text)
      = .accept s.dataModel := member_eq_accept rfl (optional_text s.dataModel)
  have hsubsystem : Verdict.member s.members "wsl_version" (pure none) (.optional .text)
      = .accept s.wslVersion := member_eq_accept rfl (optional_text s.wslVersion)
  simp only [check, hflag, hforced, hmodel, hsubsystem]
  rw [htext (t := s.osName) rfl, htext (t := s.osVersion) rfl, htext (t := s.osArch) rfl,
    htext (t := s.runtimeName) rfl, htext (t := s.runtimeVersion) rfl,
    htext (t := s.runtimeVendor) rfl, htext (t := s.desktop) rfl,
    htext (t := s.kdeFullSession) rfl]
  rfl

/-- To override facts is to replace them in the record. -/
theorem overrideMembers_members (s : Snapshot) (o : Overrides) :
    overrideMembers s.members o = (s.override o).members := by
  obtain ⟨osName, osVersion, osArch, dataModel, desktop⟩ := o
  cases osName <;> cases osVersion <;> cases osArch <;> cases dataModel <;> cases desktop <;> rfl

theorem check_overrideMembers (s : Snapshot) (o : Overrides) :
    check (.obj (overrideMembers s.members o)) = .accept (s.override o) := by
  rw [overrideMembers_members, check_members]

/-! ## Taking a snapshot -/

variable {host : HostRecord} {env : Environment} {settings : Settings}

theorem detect_result (host : HostRecord) (env : Environment) (settings : Settings) :
    (detect host env settings).result
      = (observe host env settings.caseSensitive).map (·.override settings.overrides) := by
  rw [detect, Attempt.result_bind, Attempt.result_ofExcept]
  cases observe host env settings.caseSensitive with
  | error failure => rfl
  | ok observed =>
      show Attempt.result (if _ then _ else _) = _
      split <;> rfl

/-- What is observed besides the version of the subsystem. -/
def observed (host : HostRecord) (env : Environment) (caseSensitive : Option Bool)
    (wslVersion : Option Text) : Snapshot where
  osName := host.osName
  osVersion := host.osVersion
  osArch := host.osArch
  runtimeName := host.runtimeName
  runtimeVersion := host.runtimeVersion
  runtimeVendor := host.runtimeVendor
  dataModel := host.dataModel.map DataModel.text
  desktop := env.desktop
  kdeFullSession := (env.get? "KDE_FULL_SESSION").getD []
  screenMenuBar := env.get? "APPLE_LAF_USE_SCREEN_MENU_BAR" = some "true"
  caseSensitive := caseSensitive
  wslVersion := wslVersion

theorem observe_eq (host : HostRecord) (env : Environment) (caseSensitive : Option Bool) :
    observe host env caseSensitive = host.wslVersion.map (observed host env caseSensitive) := by
  unfold observe
  cases host.wslVersion <;> rfl

theorem detect_eq_error_iff {failure : Failure} :
    (detect host env settings).result = .error failure
      ↔ ∃ bytes fault, host.kernelFile? = some bytes ∧ Utf8.decode bytes = .error fault
        ∧ failure = .undecodable fault := by
  rw [detect_result, observe_eq, ← HostRecord.wslVersion_eq_error_iff]
  cases host.wslVersion with
  | error cause => simp [Except.map]
  | ok version => simp [Except.map]

theorem detect_eq_ok_iff {s : Snapshot} :
    (detect host env settings).result = .ok s ↔ ∃ version, host.wslVersion = .ok version
      ∧ s = (observed host env settings.caseSensitive version).override settings.overrides := by
  rw [detect_result, observe_eq]
  cases host.wslVersion with
  | error cause => simp [Except.map]
  | ok version => simp [Except.map, eq_comm]

/-! ## The headline theorem -/

/-- What could not be found out, and was not overridden, is absent or empty in the snapshot. An
unknown version of the system is that of its kernel. -/
structure LeavesOpen (host : HostRecord) (env : Environment) (o : Overrides) (s : Snapshot) :
    Prop where
  osVersion : o.osVersion = none →
    (host.platform = .macos ∧ host.macVersion = []
      ∨ host.platform = .windows ∧ (Text.split Version.dot host.version).length < 2) →
    s.osVersion = host.release
  runtimeVendor : .scalar ' ' ∉ host.runtimeBanner → s.runtimeVendor = []
  dataModel : o.dataModel = none → host.pointerSize ≠ some 4 → host.pointerSize ≠ some 8 →
    s.dataModel = none
  desktop : o.desktop = none → env.nonEmpty? "XDG_CURRENT_DESKTOP" = none →
    env.nonEmpty? "DESKTOP_SESSION" = none → s.desktop = []
  kdeFullSession : env.get? "KDE_FULL_SESSION" = none → s.kdeFullSession = []

theorem osVersion_eq_release {host : HostRecord}
    (h : host.platform = .macos ∧ host.macVersion = []
      ∨ host.platform = .windows ∧ (Text.split Version.dot host.version).length < 2) :
    host.osVersion = host.release := by
  rcases h with ⟨hplatform, hversion⟩ | ⟨hplatform, hshort⟩
  · rw [HostRecord.osVersion, hplatform, hversion]
    rfl
  · have hnone : HostRecord.firstTwo? host.version = none := by
      unfold HostRecord.firstTwo?
      split
      · rename_i major minor rest hsplit
        rw [hsplit, List.length_cons, List.length_cons] at hshort
        omega
      · rfl
    rw [HostRecord.osVersion, hplatform]
    show (HostRecord.firstTwo? host.version).getD host.release = host.release
    rw [hnone, Option.getD_none]

theorem runtimeVendor_eq_nil {host : HostRecord} (h : .scalar ' ' ∉ host.runtimeBanner) :
    host.runtimeVendor = [] := by
  have hcut : Text.cut (.scalar ' ') host.runtimeBanner = (host.runtimeBanner, none) := by
    generalize host.runtimeBanner = banner at h
    induction banner with
    | nil => rfl
    | cons c banner ih =>
        rw [List.mem_cons, not_or] at h
        rw [Text.cut, if_neg (Ne.symm h.1), ih h.2]
  rw [HostRecord.runtimeVendor, hcut]
  rfl

theorem leavesOpen_override (host : HostRecord) (env : Environment) (caseSensitive : Option Bool)
    (version : Option Text) (o : Overrides) :
    LeavesOpen host env o ((observed host env caseSensitive version).override o) where
  osVersion ho h := by
    rw [override, ho]
    exact osVersion_eq_release h
  runtimeVendor h := runtimeVendor_eq_nil h
  dataModel ho h4 h8 := by
    have hnone : host.dataModel = none := by
      unfold HostRecord.dataModel
      split
      · exact absurd ‹_› h4
      · exact absurd ‹_› h8
      · rfl
    rw [override, ho, observed, hnone]
    rfl
  desktop ho hcurrent hsession := by
    rw [override, ho]
    show env.desktop = []
    rw [Environment.desktop, hcurrent, hsession]
    rfl
  kdeFullSession h := by
    show (env.get? "KDE_FULL_SESSION").getD [] = []
    rw [h, Option.getD_none]

/-- What comes of taking a snapshot of a host, in an environment and under settings. -/
structure Detects (host : HostRecord) (env : Environment) (settings : Settings) : Prop where
  fails : ∀ failure, (detect host env settings).result = .error failure
    ↔ ∃ bytes fault, host.kernelFile? = some bytes ∧ Utf8.decode bytes = .error fault
      ∧ failure = .undecodable fault
  taken : (∀ bytes, host.kernelFile? = some bytes → ∃ t, Utf8.decode bytes = .ok t) →
    ∃ s, (detect host env settings).result = .ok s
  /-- The record of what was observed, with the overrides in it, passes the check. -/
  checked : ∀ s, (detect host env settings).result = .ok s →
    ∃ version, host.wslVersion = .ok version
      ∧ check (.obj (overrideMembers (observed host env settings.caseSensitive version).members
        settings.overrides)) = .accept s
  subsystem : ∀ s, (detect host env settings).result = .ok s →
    ∀ version, s.wslVersion = some version ↔ host.TellsSubsystem version
  leavesOpen : ∀ s, (detect host env settings).result = .ok s →
    LeavesOpen host env settings.overrides s

/-- **A snapshot can be taken of any host**, in any environment and under any settings, unless the
kernel's version file of a Linux is not UTF-8. -/
theorem detect_unlessGarbled (host : HostRecord) (env : Environment) (settings : Settings) :
    Detects host env settings where
  fails _ := detect_eq_error_iff
  taken hread := by
    cases hresult : (detect host env settings).result with
    | ok s => exact ⟨s, rfl⟩
    | error failure =>
        obtain ⟨bytes, fault, hfile, hfault, -⟩ := detect_eq_error_iff.mp hresult
        obtain ⟨t, ht⟩ := hread bytes hfile
        cases ht.symm.trans hfault
  checked s hs := by
    obtain ⟨version, hversion, rfl⟩ := detect_eq_ok_iff.mp hs
    exact ⟨version, hversion, check_overrideMembers _ _⟩
  subsystem s hs version := by
    obtain ⟨found, hfound, rfl⟩ := detect_eq_ok_iff.mp hs
    exact HostRecord.tellsSubsystem_iff hfound version
  leavesOpen s hs := by
    obtain ⟨version, -, rfl⟩ := detect_eq_ok_iff.mp hs
    exact leavesOpen_override ..

/-- One byte that begins no character, in the version file of the kernel, and there is no snapshot
of this host, with nothing in its environment and under the default settings. -/
theorem detect_garbledKernel :
    (detect ⟨"Linux", "6.1", [], [], "x86_64", "CPython", "3.12.1", [], some 8, some [0xFF]⟩
      [] {}).result = .error (.undecodable ⟨.invalidStart, 0xFF, 0, 1⟩) :=
  detect_eq_error_iff.mpr ⟨[0xFF], _, by decide +kernel, rfl, rfl⟩

end Snapshot

end HostFacts
