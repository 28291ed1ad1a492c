import HostFacts.Proofs.Json.Joined
import HostFacts.Proofs.Probes.Entries
import HostFacts.Proofs.Settings.Places
import HostFacts.Proofs.Snapshot.Detection
import HostFacts.Proofs.Snapshot.Properties

/-!
# Facts are joined texts

No fact that is reported has a pair of surrogates in it that are two characters,
if nothing has one that the host or the environment says. What a snapshot makes of
these texts are runs cut out of them, and the texts that settings put in their
place were read from JSON in a file (`Settings.isJoined_of_loadFile`).
-/

namespace HostFacts

open Text

/-! ## Settings -/

section Documents

open Grammar

/-- A field whose values are texts as they stand has a joined text, if it has one. -/
theorem Grammar.Field.isJoined {reads : Json → Text → Prop}
    (hreads : ∀ j t, reads j t → j = .str t) {field : Option Json} {text : Option Text}
    (h : Field (Nullable reads) none field text) (hfield : ∀ j, field = some j → j.IsJoined) :
    ∀ t, text = some t → t.isJoined = true := by
  rintro t rfl
  cases h with
  | present hvalue =>
      cases hvalue with
      | value hread =>
          obtain rfl := hreads _ _ hread
          cases hfield _ rfl with
          | str ht => exact ht

/-- The texts of the facts to report are joined. -/
structure Overrides.IsJoined (o : Overrides) : Prop where
  osName : ∀ t, o.osName = some t → t.isJoined = true
  osVersion : ∀ t, o.osVersion = some t → t.isJoined = true
  osArch : ∀ t, o.osArch = some t → t.isJoined = true
  desktop : ∀ t, o.desktop = some t → t.isJoined = true

theorem Overrides.isJoined_default : Overrides.IsJoined {} := ⟨nofun, nofun, nofun, nofun⟩

theorem Overrides.Document.isJoined {j : Json} {o : Overrides} (h : Overrides.Document j o)
    (hj : j.IsJoined) : o.IsJoined := by
  have hname : ∀ j t, NameText j t → j = .str t := by
    rintro _ t ⟨⟩
    rfl
  have hany : ∀ j t, AnyText j t → j = .str t := by
    rintro _ t ⟨⟩
    rfl
  cases h with
  | intro hosName hosVersion hosArch hdataModel hdesktop =>
      exact ⟨hosName.isJoined hname fun _ => hj.named, hosVersion.isJoined hname fun _ => hj.named,
        hosArch.isJoined hany fun _ => hj.named, hdesktop.isJoined hany fun _ => hj.named⟩

theorem Grammar.Field.isJoined_overrides {field : Option Json} {o : Overrides}
    (h : Field Overrides.Document {} field o) (hfield : ∀ j, field = some j → j.IsJoined) :
    o.IsJoined := by
  cases h with
  | absent => exact Overrides.isJoined_default
  | present hdocument => exact hdocument.isJoined (hfield _ rfl)

/-- Settings that were read have joined texts among the facts to report. -/
theorem Settings.Document.isJoined {j : Json} {s : Settings} (h : Settings.Document j s)
    (hj : j.IsJoined) : s.overrides.IsJoined := by
  cases h with
  | intro _ _ _ hoverrides => exact hoverrides.isJoined_overrides fun _ => hj.named

end Documents

namespace Settings

theorem isJoined_of_holds {w : World} {path : Path} {s : Settings} (h : Holds w path s) :
    s.overrides.IsJoined := by
  obtain ⟨t, j, htext, hread, hdocument⟩ := h
  exact hdocument.isJoined (Json.isJoined_of_read (World.isWellFormed_readText htext) hread)

/-- Settings that are in force were read, or they are the defaults. -/
theorem isJoined_of_loadFile {w : World} {place : Path} {s : Settings}
    (h : (loadFile w place).result.map (·.getD {}) = .ok s) : s.overrides.IsJoined := by
  cases hpath : w.expandHome place with
  | error failure =>
      rw [loadFile_result, hpath] at h
      cases h
  | ok path =>
      by_cases hheld : ∃ s', Holds w path s'
      · obtain ⟨s', hs'⟩ := hheld
        rw [loadFile_eq_some hpath hs'] at h
        cases h
        exact isJoined_of_holds hs'
      · rw [loadFile_eq_none hpath fun s' hs' => hheld ⟨s', hs'⟩] at h
        cases h
        exact Overrides.isJoined_default

end Settings

/-! ## Hosts and environments -/

/-- The texts that a host says about itself. -/
def HostRecord.texts (host : HostRecord) : List Text :=
  [host.system, host.release, host.version, host.macVersion, host.machine, host.runtimeName,
   host.runtimeVersion, host.runtimeBanner]

/-- No text that the host or the environment says has a pair of surrogates in it. Neither makes
any out of the bytes of the system, which is where they have their texts from. -/
structure World.IsJoined (w : World) : Prop where
  host : ∀ t ∈ w.host.texts, t.isJoined = true
  env : ∀ pair ∈ w.env, pair.2.isJoined = true

theorem isJoined_getD {o : Option Text} {t : Text} (ho : ∀ u, o = some u → u.isJoined = true)
    (ht : t.isJoined = true) : (o.getD t).isJoined = true := by
  cases o with
  | none => exact ht
  | some u => exact ho u rfl

namespace HostRecord

variable {host : HostRecord} (h : ∀ t ∈ host.texts, t.isJoined = true)

theorem isJoined_firstTwo? {version t : Text} (hversion : version.isJoined = true)
    (ht : firstTwo? version = some t) : t.isJoined = true := by
  unfold firstTwo? at ht
  split at ht
  · rename_i major minor rest hsplit
    obtain rfl := Option.some.inj ht
    have hminor : minor <+: Text.join [Version.dot] (minor :: rest) := by
      cases rest with
      | nil => simp [Text.join, List.intercalate]
      | cons third rest =>
          rw [Text.join_cons_cons, List.append_assoc]
          exact List.prefix_append ..
    have hboth : (major ++ Version.dot :: minor) <+: version := by
      rw [← Text.join_split Version.dot version, hsplit, Text.join_cons_cons, List.append_assoc,
        List.singleton_append]
      exact (List.prefix_append_right_inj major).mpr (List.cons_prefix_cons.mpr ⟨rfl, hminor⟩)
    exact Text.isJoined_of_isInfix hboth.isInfix hversion
  · cases ht

include h

theorem isJoined_osVersion : host.osVersion.isJoined = true := by
  simp only [texts, List.forall_mem_cons] at h
  obtain ⟨-, hrelease, hversion, hmacVersion, -⟩ := h
  unfold osVersion
  split
  · split
    · exact hrelease
    · exact hmacVersion
  · exact isJoined_getD (fun t ht => isJoined_firstTwo? hversion ht) hrelease
  · exact hrelease
  · exact hrelease

theorem isJoined_runtimeVendor : host.runtimeVendor.isJoined = true := by
  simp only [texts, List.forall_mem_cons] at h
  obtain ⟨-, -, -, -, -, -, -, hbanner, -⟩ := h
  refine Text.isJoined_of_isInfix (Text.trim_isInfix _) (isJoined_getD (fun t ht => ?_) rfl)
  exact Text.isJoined_of_isInfix (Text.cut_suffix ht).isInfix hbanner

end HostRecord

theorem HostRecord.isJoined_wslVersion {host : HostRecord} {version : Option Text}
    (h : host.wslVersion = .ok version) : ∀ t, version = some t → t.isJoined = true := by
  have hsubsystem (kernel : Text) :
      ∀ t, subsystemVersion? kernel = some t → t.isJoined = true := by
    intro t ht
    unfold subsystemVersion? at ht
    dsimp only at ht
    split at ht
    · cases ht
    · split at ht
      · obtain rfl := Option.some.inj ht
        decide
      · obtain rfl := Option.some.inj ht
        decide
  unfold wslVersion at h
  split at h
  · split at h
    · obtain rfl := Except.ok.inj h
      exact hsubsystem _
    · cases h
  · obtain rfl := Except.ok.inj h
    exact nofun

theorem Environment.isJoined_desktop {env : Environment}
    (h : ∀ pair ∈ env, pair.2.isJoined = true) : env.desktop.isJoined = true := by
  have hvalue {name t : Text} (ht : env.nonEmpty? name = some t) : t.isJoined = true :=
    h _ (Dictionary.mem_of_get?_eq_some (Option.filter_eq_some_iff.mp ht).1)
  refine isJoined_getD (fun t ht => ?_) rfl
  cases hcurrent : env.nonEmpty? "XDG_CURRENT_DESKTOP" with
  | some u =>
      rw [hcurrent] at ht
      obtain rfl := Option.some.inj ht
      exact hvalue hcurrent
  | none =>
      rw [hcurrent] at ht
      exact hvalue ht

/-! ## Snapshots -/

/-- The text of a fact is joined, if it is a text. -/
def Fact.IsJoined (f : Fact) : Prop := ∀ t, f = .text t → t.isJoined = true

theorem Fact.isJoined_text {t : Text} (h : t.isJoined = true) : (text t).IsJoined := by
  rintro _ ⟨⟩
  exact h

theorem Fact.isJoined_flag (b : Bool) : (flag b).IsJoined := nofun

theorem Fact.isJoined_ofText? {o : Option Text} (h : ∀ t, o = some t → t.isJoined = true) :
    (ofText? o).IsJoined := by
  cases o with
  | none => exact nofun
  | some t => exact isJoined_text (h t rfl)

namespace Snapshot

theorem isJoined_identity {w : World} (hw : w.IsJoined) {settings : Settings}
    (hsettings : settings.overrides.IsJoined) {s : Snapshot}
    (h : (detect w.host w.env settings).result = .ok s) :
    ∀ fact ∈ s.identity, fact.2.IsJoined := by
  rw [detect_result] at h
  cases hobserved : observe w.host w.env settings.caseSensitive with
  | error failure =>
      rw [hobserved] at h
      cases h
  | ok observed =>
      rw [hobserved] at h
      cases h
      obtain ⟨version, hversion, hrest⟩ := except_bind_eq_ok.mp hobserved
      cases hrest
      have hmodel (model : Option DataModel) :
          ∀ t, model.map DataModel.text = some t → t.isJoined = true := by
        rintro t ht
        obtain ⟨m, -, rfl⟩ := Option.map_eq_some_iff.mp ht
        cases m <;> decide
      have htexts := hw.host
      simp only [HostRecord.texts, List.forall_mem_cons] at htexts
      obtain ⟨hsystem, -, -, -, hmachine, hname, hruntime, -⟩ := htexts
      simp only [identity, override, List.forall_mem_cons]
      refine ⟨Fact.isJoined_text (isJoined_getD hsettings.osName hsystem),
        Fact.isJoined_text
          (isJoined_getD hsettings.osVersion (HostRecord.isJoined_osVersion hw.host)),
        Fact.isJoined_text (isJoined_getD hsettings.osArch hmachine),
        Fact.isJoined_text hname, Fact.isJoined_text hruntime,
        Fact.isJoined_text (HostRecord.isJoined_runtimeVendor hw.host),
        Fact.isJoined_ofText? fun t ht => ?_,
        Fact.isJoined_text
          (isJoined_getD hsettings.desktop (Environment.isJoined_desktop hw.env)),
        Fact.isJoined_ofText? (HostRecord.isJoined_wslVersion hversion),
        fun _ hfact => absurd hfact List.not_mem_nil⟩
      -- the model is overridden as a whole, with nothing of the one observed
      cases hmodels : settings.overrides.dataModel with
      | some model =>
          rw [hmodels] at ht
          exact hmodel (some model) t ht
      | none =>
          rw [hmodels] at ht
          exact hmodel w.host.dataModel t ht

/-! ## Facts -/

/-- The names of the facts of a snapshot. -/
def factNames (s : Snapshot) : List Text :=
  s.identity.map Prod.fst ++ (s.flags ++ s.ladders).map Prod.fst

/-- All snapshots have facts of the same names. -/
theorem factNames_eq (s s' : Snapshot) : s.factNames = s'.factNames := rfl

theorem names_facts {s : Snapshot} {facts : Dictionary Fact} (h : s.facts = .ok facts) :
    facts.map Prod.fst = s.factNames := by
  have hnames := congrArg (List.map Prod.fst) (listed_eq h)
  simpa [listed, certain, told, factNames, Function.comp_def] using hnames.symm

theorem isJoined_facts {s : Snapshot} (hidentity : ∀ fact ∈ s.identity, fact.2.IsJoined)
    {facts : Dictionary Fact} (h : s.facts = .ok facts) :
    ∀ fact ∈ facts, fact.2.IsJoined := by
  intro fact hfact
  rcases facts_cases h fact hfact with hmem | ⟨b, hb⟩
  · exact hidentity fact hmem
  · rw [hb]
    exact Fact.isJoined_flag b

end Snapshot

end HostFacts
