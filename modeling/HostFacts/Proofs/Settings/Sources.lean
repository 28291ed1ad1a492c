import HostFacts.Proofs.Json.LineEnds
import HostFacts.Proofs.Settings.Acceptance
import HostFacts.Proofs.Text.Utf8

/-!
# Settings from a file and from a text

A file is decoded and its carriage returns are folded before its text is
read, a text at hand is read as it stands. Decoding undoes encoding
(`Utf8.decode_encode`), folding keeps the lines, and the reader of JSON does
not see line ends; so the two ways come to the same settings
(`loadFile_eq_loadText`).
-/

namespace HostFacts

/-- The text of a file that holds the bytes of a text. -/
theorem World.readText_of_file {w : World} {p : Path} {t : Text} {executable : Bool}
    (ht : t.isWellFormed = true)
    (hfile : w.files.entry? p = .ok (some (.file (Utf8.encode t) executable))) :
    w.readText p = .ok t.foldNewlines := by
  have hnul : p.hasNul = false := by
    cases hn : p.hasNul with
    | false => rfl
    | true =>
        rw [FileTree.entry?, if_pos hn] at hfile
        cases hfile
  have hentry : w.files.entry p = .ok (.file (Utf8.encode t) executable) := by
    rw [FileTree.entry?, hnul, if_neg Bool.false_ne_true] at hfile
    split at hfile
    · rename_i entry hentry
      rw [hentry, Option.some.inj (Except.ok.inj hfile)]
    · split at hfile <;> cases hfile
  have hcontent : w.files.content p = .ok (Utf8.encode t) := by
    rw [FileTree.content, hentry]
    rfl
  rw [World.readText_eq, hnul, if_neg Bool.false_ne_true, hcontent]
  simp only [Utf8.decode_encode ht]

namespace Settings

theorem result_orWarn (origin : Text) (settings : Except Failure Settings) :
    (orWarn origin (settings.map some)).result = .ok settings.toOption := by
  cases settings <;> rfl

theorem ofText_eq_ok_iff_of_sameLines {t u : Text} (h : Text.SameLines t u) (s : Settings) :
    ofText t = .ok s ↔ ofText u = .ok s := by
  simp only [ofText_eq_ok_iff, Json.read_eq_ok_iff_of_sameLines h]

/-- **File and text.** A file with the bytes of a text holds the settings that the text says,
or both come to none. They are those of the JSON document that the text is, if it is one. -/
theorem loadFile_eq_loadText {w : World} {p q : Path} {t : Text} {executable : Bool}
    (ht : t.isWellFormed = true) (hp : w.expandHome p = .ok q)
    (hfile : w.files.entry? q = .ok (some (.file (Utf8.encode t) executable))) :
    ∃ settings, (loadFile w p).result = .ok settings ∧ (loadText t).result = .ok settings
      ∧ ∀ s, settings = some s ↔ ∃ j, Json.read t = .ok j ∧ Document j s := by
  have hexists : w.fileExists q = .ok true := by
    rw [World.fileExists, FileTree.contains, hfile]
    rfl
  have hload : ofFile w q = (ofText t.foldNewlines).map some := by
    rw [ofFile, hexists, World.readText_of_file ht hfile]
    show (ofText t.foldNewlines >>= fun settings => pure (some settings)) = _
    cases ofText t.foldNewlines <;> rfl
  have hfold : (ofText t.foldNewlines).toOption = (ofText t).toOption := Option.ext fun s => by
    rw [toOption_eq_some_iff, toOption_eq_some_iff,
      ofText_eq_ok_iff_of_sameLines (Text.sameLines_foldNewlines t)]
  refine ⟨(ofText t).toOption, ?_, result_orWarn _ _, fun s => ?_⟩
  · rw [loadFile, hp, Attempt.result_bind]
    show (orWarn ("file " ++ q.text) (ofFile w q)).result = _
    rw [hload, result_orWarn, hfold]
  · rw [toOption_eq_some_iff, ofText_eq_ok_iff]

/-- Settings on lines that end in all three ways. -/
def mixedEnds : Text := "\x7b\r\n\"osReleasePath\":\r\"/r\"\n\x7d"

def mixedEndsWorld : World where
  env := [("HOME", "/h")]
  host := ⟨[], [], [], [], [], [], [], [], none, none⟩
  files := ⟨[(["h"], .directory), (["h", "s"], .file (Utf8.encode mixedEnds) false)], []⟩
  accounts := ⟨none, []⟩

theorem mixedEnds_file :
    mixedEndsWorld.files.entry? (.ofText "/h/s")
      = .ok (some (.file (Utf8.encode mixedEnds) false)) := by decide +kernel

theorem loadFile_eq_loadText_mixedEnds :
    (∃ settings, (loadFile mixedEndsWorld (.ofText "~/s")).result = .ok settings
        ∧ (loadText mixedEnds).result = .ok settings
        ∧ ∀ s, settings = some s ↔ ∃ j, Json.read mixedEnds = .ok j ∧ Document j s)
      ∧ (loadText mixedEnds).result = .ok (some { releaseFile := "/r" }) :=
  ⟨loadFile_eq_loadText (by decide +kernel) (by decide +kernel) mixedEnds_file,
    by decide +kernel⟩

end Settings

end HostFacts
