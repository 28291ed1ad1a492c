import HostFacts.Command.Run
import HostFacts.Proofs.Probes.Looks

/-!
# Results of the command

Apart from the log all that comes of a command line comes of results, one after
another: the settings, the snapshot under them, and the report of the probes for
both.
-/

namespace HostFacts.Command

variable {w w' : World} {o : Options}

/-- A report fails as the settings do, as the snapshot does, or as its own items do. -/
theorem report_result (w : World) (o : Options) :
    (report w o).result = (settingsFor w o.settingsFile).result.bind fun settings =>
      (Snapshot.detect w.host w.env settings).result.bind fun snapshot =>
        (reportOf { snapshot, settings } w o).result := by
  rw [report, Attempt.result_bind, probesFor, Attempt.result_bind]
  cases (settingsFor w o.settingsFile).result with
  | error failure => rfl
  | ok settings =>
      show ((Snapshot.detect w.host w.env settings >>= _).result).bind _
        = (Snapshot.detect w.host w.env settings).result.bind _
      rw [Attempt.result_bind]
      cases (Snapshot.detect w.host w.env settings).result with
      | error failure => rfl
      | ok snapshot => rfl

theorem reportOf_congr {p : Probes} (h : p.SameLooks w w') (o : Options) :
    reportOf p w o = reportOf p w' o := by
  unfold reportOf
  rw [h.releaseFacts]

/-- But for the log all that comes of an attempt comes of its result. -/
theorem Outcome.ofReport_congr (env env' : Environment) (json : Bool)
    {attempt attempt' : Attempt Report} (h : attempt.result = attempt'.result) :
    (ofReport env json attempt).output = (ofReport env' json attempt').output
      ∧ (ofReport env json attempt).ending = (ofReport env' json attempt').ending := by
  unfold ofReport
  rw [h]
  cases attempt'.result with
  | error failure => exact ⟨rfl, rfl⟩
  | ok report => exact ⟨rfl, rfl⟩

end HostFacts.Command
