import HostFacts.Proofs.Probes.Looks
import HostFacts.Settings.Loading
import HostFacts.Snapshot.Detection

/-!
# What is seen of a world

Two variables of the environment say where the settings are and whether messages
are shown. All that is asked of the environment besides are five variables, for
the home directory and for facts (`World.factVariables`). So two worlds that agree
in these and in all that is not environment (`SameFacts`) are the same to whoever
has a place of settings at hand: a file loads as the same settings, with the same
messages, the snapshot is the same, and so are all looks of the probes.
-/

namespace HostFacts

namespace World

/-- The variables that the home directory and the facts come from. -/
def factVariables : List Text :=
  ["HOME", "XDG_CURRENT_DESKTOP", "DESKTOP_SESSION", "KDE_FULL_SESSION",
   "APPLE_LAF_USE_SCREEN_MENU_BAR"]

/-- Worlds that agree in all but variables that are none of these. -/
structure SameFacts (w w' : World) : Prop where
  host : w.host = w'.host
  files : w.files = w'.files
  accounts : w.accounts = w'.accounts
  get? : ∀ name ∈ factVariables, w.env.get? name = w'.env.get? name

/-- To set any other variable changes none of them. -/
theorem sameFacts_put {name : Text} (hname : name ∉ factVariables) (w : World) (value : Text) :
    w.SameFacts { w with env := w.env.put name value } where
  host := rfl
  files := rfl
  accounts := rfl
  get? other hother := by
    have hne : other ≠ name := fun heq => hname (heq ▸ hother)
    show w.env.get? other = (Dictionary.put name value w.env).get? other
    rw [Dictionary.get?_put, if_neg hne]

namespace SameFacts

variable {w w' : World} (h : w.SameFacts w')

include h

/-! ## The environment -/

theorem nonEmpty? {name : Text} (hname : name ∈ factVariables) :
    w.env.nonEmpty? name = w'.env.nonEmpty? name := by
  rw [Environment.nonEmpty?, Environment.nonEmpty?, h.get? name hname]

theorem desktop : w.env.desktop = w'.env.desktop := by
  rw [Environment.desktop, Environment.desktop, h.nonEmpty? (by decide), h.nonEmpty? (by decide)]

theorem homeFor (name : Text) : w.homeFor name = w'.homeFor name := by
  unfold World.homeFor
  rw [h.get? "HOME" (by decide), h.accounts]

theorem expandHome (p : Path) : w.expandHome p = w'.expandHome p := by
  unfold World.expandHome
  split
  · rw [h.homeFor]
  · rfl

/-! ## The files -/

theorem readText (p : Path) : w.readText p = w'.readText p := by
  unfold World.readText
  rw [h.files]

theorem fileExists (p : Path) : w.fileExists p = w'.fileExists p := by
  unfold World.fileExists
  rw [h.files]

theorem isExecutable (p : Path) : w.isExecutable p = w'.isExecutable p := by
  unfold World.isExecutable
  rw [h.files]

/-! ## Settings, snapshots and probes -/

theorem loadFile (p : Path) : Settings.loadFile w p = Settings.loadFile w' p := by
  have hfile (path : Path) : Settings.ofFile w path = Settings.ofFile w' path := by
    unfold Settings.ofFile
    rw [h.fileExists, h.readText]
  unfold Settings.loadFile
  rw [h.expandHome]
  simp only [hfile]

theorem detect (settings : Settings) :
    Snapshot.detect w.host w.env settings = Snapshot.detect w'.host w'.env settings := by
  unfold Snapshot.detect Snapshot.observe
  rw [h.host, h.desktop, h.get? "KDE_FULL_SESSION" (by decide),
    h.get? "APPLE_LAF_USE_SCREEN_MENU_BAR" (by decide)]

theorem sameLooks (p : Probes) : p.SameLooks w w' where
  release := h.readText _
  tool _ := h.isExecutable _

end SameFacts

end World

end HostFacts
