import HostFacts.Command.Report
import HostFacts.Process

/-!
# What probes look at

Probes look at two things in a world: the text of the release file, and whether
the optional executables are there. Where the settings point, and no further: in
two worlds with the same to see there (`SameLooks`) every call comes to the same,
with the same messages and the same cells. The settings of probes never change,
so it stays that way from call to call.
-/

namespace HostFacts.Probes

/-- Two worlds have the same to see for probes. -/
structure SameLooks (p : Probes) (w w' : World) : Prop where
  release : w.readText (.ofText p.settings.releaseFile)
    = w'.readText (.ofText p.settings.releaseFile)
  tool : ∀ tool : DesktopTool,
    w.isExecutable ((Path.ofText p.settings.executableDirectory).child tool.name)
      = w'.isExecutable ((Path.ofText p.settings.executableDirectory).child tool.name)

theorem SameLooks.of_settings {p p' : Probes} {w w' : World} (h : p.SameLooks w w')
    (hp : p'.settings = p.settings) : p'.SameLooks w w' where
  release := hp ▸ h.release
  tool := hp ▸ h.tool

theorem settings_hasTool (p : Probes) (w : World) (tool : DesktopTool) :
    (p.hasTool w tool).2.settings = p.settings := by
  rw [hasTool_after]

theorem settings_attempt (p : Probes) (w : World) (call : Call) :
    (call.attempt p w).2.settings = p.settings := by
  cases call with
  | osRelease | releaseName | releaseVersion | releaseId => rfl
  | hasXdgOpen | hasXdgMime => exact settings_hasTool ..
  | hasToolNamed name =>
      show (p.hasToolNamed w name).2.settings = p.settings
      unfold hasToolNamed
      cases DesktopTool.ofName? name with
      | none => rfl
      | some tool => exact settings_hasTool ..

namespace SameLooks

variable {p : Probes} {w w' : World} (h : p.SameLooks w w')

include h

theorem osRelease : p.osRelease w = p.osRelease w' := by
  unfold Probes.osRelease OsRelease.look OsRelease.load
  rw [h.release]

theorem releaseEntry (name : Text) : p.releaseEntry w name = p.releaseEntry w' name := by
  unfold Probes.releaseEntry
  rw [h.osRelease]

theorem hasTool (tool : DesktopTool) : p.hasTool w tool = p.hasTool w' tool := by
  unfold Probes.hasTool DesktopTool.lookFor
  simp only [h.tool]

theorem attempt (call : Call) : call.attempt p w = call.attempt p w' := by
  cases call with
  | osRelease => simp only [Call.attempt, h.osRelease]
  | releaseName | releaseVersion | releaseId =>
      simp only [Call.attempt, Probes.releaseName, Probes.releaseVersion, Probes.releaseId,
        h.releaseEntry]
  | hasXdgOpen | hasXdgMime => simp only [Call.attempt, h.hasTool]
  | hasToolNamed name =>
      have hnamed : p.hasToolNamed w name = p.hasToolNamed w' name := by
        unfold Probes.hasToolNamed
        cases DesktopTool.ofName? name with
        | none => rfl
        | some tool => exact h.hasTool tool
      simp only [Call.attempt, hnamed]

theorem releaseFacts : Command.releaseFacts p w = Command.releaseFacts p w' := by
  have hname : p.releaseName w = p.releaseName w' := h.releaseEntry _
  have h₁ : (p.releaseName w').2.SameLooks w w' := h.of_settings rfl
  have hversion : (p.releaseName w').2.releaseVersion w = (p.releaseName w').2.releaseVersion w' :=
    h₁.releaseEntry _
  have h₂ : ((p.releaseName w').2.releaseVersion w').2.SameLooks w w' := h₁.of_settings rfl
  have h₃ : (((p.releaseName w').2.releaseVersion w').2.hasTool w' .xdgOpen).2.SameLooks w w' :=
    h₂.of_settings (settings_hasTool ..)
  unfold Command.releaseFacts
  simp only [hname, hversion, h₂.hasTool, h₃.hasTool]

end SameLooks

end HostFacts.Probes
