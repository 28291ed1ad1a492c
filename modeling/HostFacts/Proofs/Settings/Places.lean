import HostFacts.Command.Report
import HostFacts.Proofs.Path
import HostFacts.Proofs.Settings.Acceptance

/-!
# Settings by their place

What comes of the settings depends on their place alone. A place that cannot be
located leaves the defaults, and so does a file that is missing, cannot be read
or holds no settings: all of this ends in a warning (`loadFile_result`). The one
gap is the tilde. It is expanded before the file is looked at and outside the
guard of the loader, so that `~name` of a stranger, or a home directory that
starts with a tilde itself, is a failure for whoever asked. The command has a
second gap: it does not guard the search for the default place either, and fails
where a session falls back to the defaults.
-/

namespace HostFacts

namespace Settings

/-! ## Files that hold settings -/

/-- The file at a path can be read, and its text is a document of these settings. -/
def Holds (w : World) (path : Path) (s : Settings) : Prop :=
  ∃ t j, w.readText path = .ok t ∧ Json.read t = .ok j ∧ Document j s

theorem fileExists_of_readText {w : World} {p : Path} {t : Text} (h : w.readText p = .ok t) :
    w.fileExists p = .ok true := by
  rw [World.readText_eq] at h
  split at h
  · cases h
  · rename_i hnul
    cases hentry : w.files.entry p with
    | error fault =>
        have hcontent : w.files.content p = .error fault := by
          rw [FileTree.content, hentry]
          rfl
        rw [hcontent] at h
        cases h
    | ok entry =>
        rw [World.fileExists, FileTree.contains, FileTree.entry?, if_neg hnul, hentry]
        rfl

/-- A file has settings just if it holds them. -/
theorem ofFile_eq_ok_some_iff {w : World} {p : Path} {s : Settings} :
    ofFile w p = .ok (some s) ↔ Holds w p s := by
  constructor
  · intro h
    obtain ⟨isThere, -, h⟩ := except_bind_eq_ok.mp h
    split at h
    · obtain ⟨t, hread, h⟩ := except_bind_eq_ok.mp h
      obtain ⟨s', hsettings, h⟩ := except_bind_eq_ok.mp h
      obtain rfl : s' = s := Option.some.inj (Except.ok.inj h)
      obtain ⟨j, hj, hdoc⟩ := ofText_eq_ok_iff.mp hsettings
      exact ⟨t, j, hread, hj, hdoc⟩
    · cases h
  · rintro ⟨t, j, hread, hj, hdoc⟩
    refine except_bind_eq_ok.mpr ⟨true, fileExists_of_readText hread, ?_⟩
    rw [if_pos rfl]
    refine except_bind_eq_ok.mpr ⟨t, hread, except_bind_eq_ok.mpr ⟨s, ?_, rfl⟩⟩
    exact ofText_eq_ok_iff.mpr ⟨j, hj, hdoc⟩

/-! ## Results -/

theorem orWarn_result (origin : Text) (settings : Except Failure (Option Settings)) :
    (orWarn origin settings).result = .ok settings.toOption.join := by
  cases settings <;> rfl

/-- Loading a file fails only with its tilde. -/
theorem loadFile_result (w : World) (p : Path) :
    (loadFile w p).result
      = (w.expandHome p).map fun path => (ofFile w path).toOption.join := by
  rw [loadFile, Attempt.result_bind, Attempt.result_ofExcept]
  cases w.expandHome p with
  | error failure => rfl
  | ok path => exact orWarn_result _ _

theorem loadFile_eq_some {w : World} {p path : Path} {s : Settings}
    (hpath : w.expandHome p = .ok path) (h : Holds w path s) :
    (loadFile w p).result = .ok (some s) := by
  rw [loadFile_result, hpath]
  show Except.ok (ofFile w path).toOption.join = _
  rw [ofFile_eq_ok_some_iff.mpr h]
  rfl

theorem loadFile_eq_none {w : World} {p path : Path}
    (hpath : w.expandHome p = .ok path) (h : ∀ s, ¬ Holds w path s) :
    (loadFile w p).result = .ok none := by
  rw [loadFile_result, hpath]
  show Except.ok (ofFile w path).toOption.join = _
  cases hfile : ofFile w path with
  | error failure => rfl
  | ok settings =>
      cases settings with
      | none => rfl
      | some s => exact absurd (ofFile_eq_ok_some_iff.mp hfile) (h s)

theorem loadDefault_of_place {w : World} {place : Path} (hplace : defaultPath w = .ok place) :
    (loadDefault w).result = (loadFile w place).result.map (·.getD {}) := by
  rw [loadDefault, hplace]
  show (loadFile w place >>= fun settings => pure (settings.getD {})).result = _
  rw [Attempt.result_bind]
  cases (loadFile w place).result <;> rfl

theorem loadDefault_of_error {w : World} {failure : Failure}
    (h : defaultPath w = .error failure) : (loadDefault w).result = .ok {} := by
  rw [loadDefault, h]
  rfl

end Settings

namespace Command

open Settings

theorem settingsFor_of_place {w : World} {settingsFile : Option Text} {place : Text}
    (hplace : settingsPlace w settingsFile = .ok place) :
    (settingsFor w settingsFile).result
      = (loadFile w (.ofText place)).result.map (·.getD {}) := by
  rw [settingsFor, hplace, Attempt.result_bind]
  show (loadFile w (.ofText place) >>= _).result = _
  rw [Attempt.result_bind]
  cases (loadFile w (.ofText place)).result with
  | error failure => rfl
  | ok settings => cases settings <;> rfl

theorem settingsFor_of_error {w : World} {settingsFile : Option Text} {failure : Failure}
    (h : settingsPlace w settingsFile = .error failure) :
    (settingsFor w settingsFile).result = .error failure := by
  rw [settingsFor, h]
  rfl

/-- Where the default place can be located the command goes by the settings of a session. -/
theorem settingsFor_none {w : World} {place : Path} (hplace : defaultPath w = .ok place) :
    (settingsFor w none).result = (loadDefault w).result := by
  have htext : settingsPlace w none = .ok place.text := by
    rw [settingsPlace, hplace]
    rfl
  rw [settingsFor_of_place htext, ofText_text_defaultPath hplace, loadDefault_of_place hplace]

end Command

/-! ## The headline theorem -/

namespace Settings

/-- What comes of the settings in a world, by their default place, for a session and for the
command without a settings file. -/
structure DecidedByPlace (w : World) : Prop where
  held : ∀ place path s, defaultPath w = .ok place → w.expandHome place = .ok path →
    Holds w path s → (loadDefault w).result = .ok s
  notHeld : ∀ place path, defaultPath w = .ok place → w.expandHome place = .ok path →
    (∀ s, ¬ Holds w path s) → (loadDefault w).result = .ok {}
  notLocated : ∀ failure, defaultPath w = .error failure → (loadDefault w).result = .ok {}
  notExpanded : ∀ place failure, defaultPath w = .ok place →
    w.expandHome place = .error failure → (loadDefault w).result = .error failure
  command : ∀ place, defaultPath w = .ok place →
    (Command.settingsFor w none).result = (loadDefault w).result
  commandNotLocated : ∀ failure, defaultPath w = .error failure →
    (Command.settingsFor w none).result = .error failure

/-- **The place decides.** In every world the settings are those that the file at the default
place holds, and the defaults if there is no such place or file. Only a tilde that cannot be
expanded is a failure; for the command a place that cannot be located is one too. -/
theorem settings_decidedByPlace (w : World) : DecidedByPlace w where
  held place path s hplace hpath hheld := by
    rw [loadDefault_of_place hplace, loadFile_eq_some hpath hheld]
    rfl
  notHeld place path hplace hpath hnone := by
    rw [loadDefault_of_place hplace, loadFile_eq_none hpath hnone]
    rfl
  notLocated failure h := loadDefault_of_error h
  notExpanded place failure hplace hpath := by
    rw [loadDefault_of_place hplace, loadFile_result, hpath]
    rfl
  command place hplace := Command.settingsFor_none hplace
  commandNotLocated failure h := by
    refine Command.settingsFor_of_error ?_
    rw [Command.settingsPlace, h]
    rfl

/-- A world of one user and no files. -/
def bareWorld (env : Environment) : World where
  env := env
  host := ⟨[], [], [], [], [], [], [], [], none, none⟩
  files := ⟨[], []⟩
  accounts := ⟨some "/h", []⟩

/-- The settings of a stranger fail both ways, and a home directory that starts with a tilde fails
the command where a session does without. -/
theorem unusable_places_fail :
    (loadDefault (bareWorld [("HOSTINFO_SETTINGS", "~stranger/s")])).result
        = .error .homeUnknown
      ∧ (Command.settingsFor (bareWorld [("HOSTINFO_SETTINGS", "~stranger/s")]) none).result
        = .error .homeUnknown
      ∧ (loadDefault (bareWorld [("HOME", "~h")])).result = .ok {}
      ∧ (Command.settingsFor (bareWorld [("HOME", "~h")]) none).result
        = .error .homeUnknown := by
  refine ⟨?_, ?_, ?_, ?_⟩ <;> decide +kernel

end Settings

end HostFacts
