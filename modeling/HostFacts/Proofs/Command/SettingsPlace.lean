import HostFacts.Proofs.Debugging
import HostFacts.Proofs.Settings.Places

/-!
# A settings file by option or by environment

The place of the settings can be given on the command line or in the environment.
The option passes a text on as it was written. The variable is made a path, which is
put into text and made a path again. That is no other place, since a path in normal
form is read back from its text (`Path.IsNormal.ofText_text`), and nothing else is
asked of the variable. So both ways the same file is loaded, and the command comes
to the same (`run_settingsOption`).

One difference is left out by a hypothesis. The option is checked before anything
else is done: a file that is there under the text as it was written, and that may
not be read, is a usage error. The environment is not looked at in this way.
-/

namespace HostFacts.Command

open Settings

/-- The world with this place of settings in its environment. -/
def withPlace (w : World) (place : Text) : World :=
  { w with env := w.env.put pathVariable place }

theorem sameFacts_withPlace (w : World) (place : Text) : w.SameFacts (withPlace w place) :=
  World.sameFacts_put (by decide) w place

/-! ## The settings -/

section Settings

variable {w : World} {place : Text}

theorem defaultPath_withPlace (hne : place ≠ []) :
    defaultPath (withPlace w place) = .ok (.ofText place) := by
  have hget : (withPlace w place).env.get? pathVariable = some place := by
    show (Dictionary.put pathVariable place w.env).get? pathVariable = some place
    rw [Dictionary.get?_put, if_pos rfl]
  have hplace : (withPlace w place).env.nonEmpty? pathVariable = some place := by
    rw [Environment.nonEmpty?, hget]
    exact Option.filter_some_pos (by simpa using hne)
  rw [defaultPath, hplace]

/-- The text of the path in the environment leads where the text of the option does. -/
theorem settingsFor_withPlace (hne : place ≠ []) :
    (settingsFor w (some place)).result = (settingsFor (withPlace w place) none).result := by
  have hoption : settingsPlace w (some place) = .ok place := by
    rw [settingsPlace, Option.filter_some_pos (by simpa using hne)]
  have hvariable : settingsPlace (withPlace w place) none = .ok (Path.ofText place).text := by
    rw [settingsPlace, defaultPath_withPlace hne]
    rfl
  rw [settingsFor_of_place hoption, settingsFor_of_place hvariable,
    (Path.isNormal_ofText place).ofText_text, (sameFacts_withPlace w place).loadFile]

/-! ## Reports -/

theorem report_withPlace (hne : place ≠ []) {o : Options} (hnone : o.settingsFile = none) :
    (report w { o with settingsFile := some place }).result
      = (report (withPlace w place) o).result := by
  have hworlds := sameFacts_withPlace w place
  have hreport (p : Probes) :
      reportOf p w { o with settingsFile := some place } = reportOf p (withPlace w place) o :=
    reportOf_congr (hworlds.sameLooks p) o
  rw [report_result, report_result, hnone, ← settingsFor_withPlace hne]
  simp only [hworlds.detect, hreport]

/-- The option is not refused unless other arguments are. -/
theorem refusal?_withPlace (hnul : .scalar '\x00' ∉ place)
    (hread : w.files.leadsToUnreadable place = false) {o : Options}
    (hnone : o.settingsFile = none) :
    refusal? w { o with settingsFile := some place } = refusal? (withPlace w place) o := by
  have hunread : unreadableSettings? w { o with settingsFile := some place } = none :=
    Option.filter_some_neg (by simp [hread])
  have hunread' : unreadableSettings? (withPlace w place) o = none := by
    rw [unreadableSettings?, hnone]
    rfl
  rw [refusal?, refusal?, hunread, hunread', hnone, if_neg (by simpa using hnul)]
  rfl

end Settings

/-! ## Command lines -/

/-- No settings file is given among the arguments, as far as they can be read. -/
def NoSettingsFile (arguments : List Text) : Prop :=
  ∀ items ∈ (readArguments arguments).toOption, ∀ file, Item.setting .settingsFile file ∉ items

theorem valuesOf_eq_nil {items : List Item} {s : Setting} (h : ∀ v, Item.setting s v ∉ items) :
    valuesOf items s = [] := by
  refine List.filterMap_eq_nil_iff.mpr fun item hitem => ?_
  cases item with
  | switch s' | operand t => rfl
  | setting s' v =>
      refine if_neg fun heq => ?_
      exact h v (heq ▸ hitem)

theorem settingsFile_of_noSettingsFile {arguments : List Text} (h : NoSettingsFile arguments)
    {o : Options} (hrequest : Request.ofArguments arguments = .ok (.report o)) :
    o.settingsFile = none := by
  unfold Request.ofArguments at hrequest
  cases hitems : readArguments arguments with
  | error e =>
      rw [hitems] at hrequest
      cases hrequest
  | ok items =>
      rw [hitems] at hrequest
      have hreport : Request.ofItems items = .report o := Except.ok.inj hrequest
      have hvalues : valuesOf items .settingsFile = [] :=
        valuesOf_eq_nil (h items (by rw [hitems]; rfl))
      unfold Request.ofItems at hreport
      cases hfirst : items.findSome? Item.request? with
      | none =>
          rw [hfirst] at hreport
          obtain rfl := Request.report.inj hreport
          rw [Options.ofItems, hvalues]
          rfl
      | some request =>
          rw [hfirst] at hreport
          obtain ⟨item, -, hitem⟩ := List.exists_of_findSome?_eq_some hfirst
          obtain rfl : request = .report o := hreport
          rcases request?_eq_some hitem with hreq | hreq <;> cases hreq

/-- A settings file in front counts if no other is given behind it. -/
theorem ofArguments_settingsOption (place : Text) (arguments : List Text) :
    Request.ofArguments (("-s" : Text) :: place :: arguments)
      = (Request.ofArguments arguments).map (·.mapOptions fun o =>
        { o with settingsFile := some (o.settingsFile.getD place) }) := by
  rw [Request.ofArguments, Request.ofArguments,
    readArguments_setting (s := .settingsFile) (by decide) (by decide)]
  cases readArguments arguments with
  | error e => rfl
  | ok items =>
      refine congrArg Except.ok (ofItems_mapOptions rfl ?_)
      have hlast : valuesOf (.setting .settingsFile place :: items) .settingsFile
          = place :: valuesOf items .settingsFile := rfl
      unfold Options.ofItems
      rw [hlast, List.getLast?_cons]
      rfl

/-! ## The headline theorem -/

/-- **A settings file by option or by environment** is the same to the command. It may be written
in any way, as long as it is no file that is there and may not be read. -/
theorem run_settingsOption (w : World) {place : Text} (hne : place ≠ [])
    (hnul : .scalar '\x00' ∉ place) (hread : w.files.leadsToUnreadable place = false)
    {arguments : List Text} (hnone : NoSettingsFile arguments) :
    (run w (("-s" : Text) :: place :: arguments)).output
        = (run (withPlace w place) arguments).output
      ∧ (run w (("-s" : Text) :: place :: arguments)).ending
        = (run (withPlace w place) arguments).ending := by
  refine run_congr_of_request (ofArguments_settingsOption place arguments) fun o hrequest => ?_
  have hfile := settingsFile_of_noSettingsFile hnone hrequest
  simp only [hfile, Option.getD_none]
  exact runReport_congr rfl (refusal?_withPlace hnul hread hfile)
    fun _ => report_withPlace hne hfile

/-- A home directory with settings that raise the version of the system. -/
def raisedWorld : World where
  env := [("HOME", "/h"), ("HOSTINFO_SETTINGS", "/elsewhere")]
  host := ⟨"Linux", "6.1", [], [], [], [], [], [], none, none⟩
  files := ⟨[(["h"], .directory),
    (["h", "s"], .file (Utf8.encode "\x7b\"overrides\": \x7b\"osVersion\": \"7\"\x7d\x7d") false)], []⟩
  accounts := ⟨none, []⟩

theorem run_settingsOption_raised :
    (run raisedWorld ["-s", ".//~/./s", "--os-at-least", "6.2"]).ending = .ok 0
      ∧ (run raisedWorld ["--os-at-least", "6.2"]).ending = .ok 1
      ∧ (run raisedWorld ["-s", ".//~/./s", "--os-at-least", "6.2"]).output
        = (run (withPlace raisedWorld ".//~/./s") ["--os-at-least", "6.2"]).output
      ∧ (run raisedWorld ["-s", ".//~/./s", "--os-at-least", "6.2"]).ending
        = (run (withPlace raisedWorld ".//~/./s") ["--os-at-least", "6.2"]).ending := by
  have hnone : NoSettingsFile ["--os-at-least", "6.2"] := by
    intro items hitems
    have hread : readArguments ["--os-at-least", "6.2"] = .ok [.setting .osAtLeast "6.2"] := by
      decide
    rw [hread] at hitems
    obtain rfl := Option.some.inj hitems
    exact fun file => by simp
  exact ⟨by decide +kernel, by decide +kernel,
    run_settingsOption raisedWorld (by decide) (by decide) (by decide +kernel) hnone⟩

end HostFacts.Command
