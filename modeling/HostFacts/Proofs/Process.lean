import HostFacts.Proofs.Probes.Looks

/-!
# Inquiries of a session

What an inquiry comes to depends on the attempt to start the session alone, if
it has not been started, and then on its probes. `Inquiry.answer` is what started
probes have to say.
-/

namespace HostFacts

/-! ## Starting a session -/

namespace Session

/-- Starting fails as the settings do or as the snapshot does. -/
theorem start_result (w : World) :
    (start w).result = (Settings.loadDefault w).result.bind fun settings =>
      (Snapshot.detect w.host w.env settings).result.map fun snapshot =>
        { snapshot, settings } := by
  rw [start, Attempt.result_bind]
  congr 1
  funext settings
  rw [Attempt.result_bind]
  cases (Snapshot.detect w.host w.env settings).result <;> rfl

/-- A session starts with probes that have not looked at anything yet. -/
theorem start_eq_ok {w : World} {p : Probes} (h : (start w).result = .ok p) :
    ∃ settings snapshot, (Settings.loadDefault w).result = .ok settings
      ∧ (Snapshot.detect w.host w.env settings).result = .ok snapshot
      ∧ p = { snapshot, settings } := by
  rw [start_result] at h
  cases hsettings : (Settings.loadDefault w).result with
  | error failure =>
      rw [hsettings] at h
      cases h
  | ok settings =>
      rw [hsettings] at h
      have hmap : ((Snapshot.detect w.host w.env settings).result.map fun snapshot =>
          ({ snapshot, settings } : Probes)) = .ok p := h
      cases hsnapshot : (Snapshot.detect w.host w.env settings).result with
      | error failure =>
          rw [hsnapshot] at hmap
          cases hmap
      | ok snapshot =>
          rw [hsnapshot] at hmap
          cases hmap
          exact ⟨settings, snapshot, rfl, hsnapshot, rfl⟩

/-- A session has probes, or it tries to start. -/
theorem get_start_cases (session : Session) (w : World) :
    (∃ p, session.probes.get (start w).result = (.ok p, .set p))
      ∨ ∃ failure, session.probes.get (start w).result = (.error failure, .unset) := by
  obtain ⟨cell⟩ := session
  cases cell with
  | set p => exact .inl ⟨p, rfl⟩
  | unset =>
      cases (start w).result with
      | ok p => exact .inl ⟨p, rfl⟩
      | error failure => exact .inr ⟨failure, rfl⟩

end Session

/-! ## Inquiries -/

namespace Process.Inquiry

/-- What started probes answer, and the probes after that. -/
def answer (p : Probes) (w : World) : Inquiry → Except Failure Answer × Probes
  | .getSnapshot => (.ok (.snapshot p.snapshot), p)
  | .getProbes => (.ok (.probes p), p)
  | .isOsVersionAtLeast version =>
    (((p.snapshot.osVersionAtLeast version).mapError .numeral).map .flag, p)
  | .isRuntimeVersionAtLeast version =>
    (((p.snapshot.runtimeVersionAtLeast version).mapError .numeral).map .flag, p)
  | .ask call => ((call.attempt p w).1.result.map .found, (call.attempt p w).2)

theorem settings_answer (p : Probes) (w : World) (inquiry : Inquiry) :
    (inquiry.answer p w).2.settings = p.settings := by
  cases inquiry with
  | getSnapshot | getProbes | isOsVersionAtLeast _ | isRuntimeVersionAtLeast _ => rfl
  | ask call => exact p.settings_attempt w call

theorem answer_congr {p : Probes} {w w' : World} (h : p.SameLooks w w') (inquiry : Inquiry) :
    inquiry.answer p w = inquiry.answer p w' := by
  cases inquiry with
  | getSnapshot | getProbes | isOsVersionAtLeast _ | isRuntimeVersionAtLeast _ => rfl
  | ask call => rw [answer, answer, h.attempt]

variable {session : Session} {w : World} {p : Probes} {failure : Failure}

theorem make_of_ok (h : session.probes.get (Session.start w).result = (.ok p, .set p))
    (inquiry : Inquiry) :
    (inquiry.make session w).1.result = (inquiry.answer p w).1
      ∧ (inquiry.make session w).2 = ⟨.set (inquiry.answer p w).2⟩ := by
  obtain ⟨hresult, hsession⟩ := Session.getProbes_of_ok h
  obtain ⟨hsnapshot, hsession'⟩ := Session.getSnapshot_of_ok h
  cases inquiry with
  | getSnapshot =>
      simp only [make, answer, Attempt.result_map, hsnapshot, hsession', Except.map, and_self]
  | getProbes =>
      simp only [make, answer, Attempt.result_map, hresult, hsession, Except.map, and_self]
  | isOsVersionAtLeast version | isRuntimeVersionAtLeast version =>
      simp only [make, answer, Session.isOsVersionAtLeast, Session.isRuntimeVersionAtLeast,
        Session.askSnapshot, Attempt.result_map, Attempt.result_bind, Attempt.result_ofExcept,
        hsnapshot, hsession', Except.bind, and_self]
  | ask call =>
      simp only [make, answer, Session.askProbes, Attempt.result_map, hresult, and_self]

theorem make_of_error
    (h : session.probes.get (Session.start w).result = (.error failure, .unset))
    (inquiry : Inquiry) :
    (inquiry.make session w).1.result = .error failure
      ∧ (inquiry.make session w).2 = ⟨.unset⟩ := by
  obtain ⟨hresult, hsession⟩ := Session.getProbes_of_error h
  obtain ⟨hsnapshot, hsession'⟩ := Session.getSnapshot_of_error h
  cases inquiry with
  | getSnapshot =>
      simp only [make, Attempt.result_map, hsnapshot, hsession', Except.map, and_self]
  | getProbes =>
      simp only [make, Attempt.result_map, hresult, hsession, Except.map, and_self]
  | isOsVersionAtLeast version | isRuntimeVersionAtLeast version =>
      simp only [make, Session.isOsVersionAtLeast, Session.isRuntimeVersionAtLeast,
        Session.askSnapshot, Attempt.result_map, Attempt.result_bind, hsnapshot, hsession',
        Except.bind, Except.map, and_self]
  | ask call =>
      simp only [make, Session.askProbes, Attempt.result_map, hresult, hsession, Except.map,
        and_self]

end Process.Inquiry

/-! ## Interviews -/

namespace Process

/-- The inquiries of a process that does nothing else, all in one world. -/
def interview (w : World) (inquiries : List Inquiry) : List (World × Operation) :=
  inquiries.map fun inquiry => (w, .inquire inquiry)

theorem map_seen_interview_cons (process : Process) (w : World) (inquiry : Inquiry)
    (inquiries : List Inquiry) :
    (process.run (interview w (inquiry :: inquiries))).map Record.seen
      = ((inquiry.make process.session w).1.result,
          { process with session := (inquiry.make process.session w).2 })
        :: (Process.run { process with session := (inquiry.make process.session w).2 }
            (interview w inquiries)).map Record.seen := rfl

/-- What the inquiries of a fresh process come to. -/
def answers (w : World) (inquiries : List Inquiry) : List (Except Failure Answer) :=
  (run {} (interview w inquiries)).map Record.result

/-- What started probes answer to one inquiry after another. -/
def answersOf (w : World) : Probes → List Inquiry → List (Except Failure Answer)
  | _, [] => []
  | p, inquiry :: inquiries =>
    (inquiry.answer p w).1 :: answersOf w (inquiry.answer p w).2 inquiries

theorem map_result_interview_cons (process : Process) (w : World) (inquiry : Inquiry)
    (inquiries : List Inquiry) :
    (process.run (interview w (inquiry :: inquiries))).map Record.result
      = (inquiry.make process.session w).1.result
        :: (Process.run { process with session := (inquiry.make process.session w).2 }
            (interview w inquiries)).map Record.result := rfl

theorem map_result_interview_set (p : Probes) (w : World) (inquiries : List Inquiry) :
    (Process.run ⟨⟨.set p⟩, []⟩ (interview w inquiries)).map Record.result
      = answersOf w p inquiries := by
  induction inquiries generalizing p with
  | nil => rfl
  | cons inquiry inquiries ih =>
      obtain ⟨hresult, hafter⟩ := inquiry.make_of_ok (Once.get_set p (Session.start w).result)
      rw [map_result_interview_cons, hresult, hafter, ih, answersOf]

/-- A process that starts its session answers as the probes do that it starts with. -/
theorem answers_of_ok {w : World} {p : Probes} (h : (Session.start w).result = .ok p)
    (inquiries : List Inquiry) : answers w inquiries = answersOf w p inquiries := by
  cases inquiries with
  | nil => rfl
  | cons inquiry inquiries =>
      have hget : (Once.unset : Once Probes).get (Session.start w).result = (.ok p, .set p) := by
        rw [h, Once.get_unset_ok]
      obtain ⟨hresult, hafter⟩ := inquiry.make_of_ok hget
      rw [answers, map_result_interview_cons, hresult, hafter, map_result_interview_set, answersOf]

/-- A process that cannot start its session tries again for each inquiry, and fails again. -/
theorem answers_of_error {w : World} {failure : Failure}
    (h : (Session.start w).result = .error failure) (inquiries : List Inquiry) :
    answers w inquiries = inquiries.map fun _ => .error failure := by
  have hget : (Once.unset : Once Probes).get (Session.start w).result
      = (.error failure, .unset) := by
    rw [h, Once.get_unset_error]
  induction inquiries with
  | nil => rfl
  | cons inquiry inquiries ih =>
      obtain ⟨hresult, hafter⟩ := inquiry.make_of_error hget
      rw [answers, map_result_interview_cons, hresult, hafter, List.map_cons]
      exact congrArg _ ih

end Process

end HostFacts
