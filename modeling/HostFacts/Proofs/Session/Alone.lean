import HostFacts.Proofs.Session.Steps

/-!
# A thread alone in a session

One who is alone in a session does not have to look twice or to take locks:
its calls are those of `Session`, which start the session and ask it in one
go. A thread whose call nobody disturbs comes to the same answer, and leaves
the session behind in the same state.
-/

namespace HostFacts.Session

/-! ## Calls in one go -/

def Call.run (session : Session) (w : World) : Call → Except Failure Answer × Session
  | .getSnapshot =>
    ((session.getSnapshot w).1.result.map fun _ => .object, (session.getSnapshot w).2)
  | .getProbes => ((session.getProbes w).1.result.map fun _ => .object, (session.getProbes w).2)
  | .askSnapshot (.osVersionAtLeast version) =>
    ((session.isOsVersionAtLeast w version).1.result.map .flag,
      (session.isOsVersionAtLeast w version).2)
  | .askSnapshot (.runtimeVersionAtLeast version) =>
    ((session.isRuntimeVersionAtLeast w version).1.result.map .flag,
      (session.isRuntimeVersionAtLeast w version).2)
  | .askProbes .releaseName =>
    ((session.releaseName w).1.result.map .entry, (session.releaseName w).2)
  | .askProbes .releaseVersion =>
    ((session.releaseVersion w).1.result.map .entry, (session.releaseVersion w).2)
  | .askProbes .hasXdgOpen => ((session.hasXdgOpen w).1.result.map .flag, (session.hasXdgOpen w).2)
  | .askProbes .hasXdgMime => ((session.hasXdgMime w).1.result.map .flag, (session.hasXdgMime w).2)

section Calls

variable {session : Session} {w : World} {p : Probes} {failure : Failure}

theorem run_of_ok (h : session.probes.get (Session.start w).result = (.ok p, .set p))
    (call : Call) : call.run session w = ((call.ask p w).1, ⟨.set (call.ask p w).2⟩) := by
  obtain ⟨hresult, hsession⟩ := getProbes_of_ok h
  obtain ⟨hresult', hsession'⟩ := getSnapshot_of_ok h
  cases call with
  | getSnapshot => simp only [Call.run, hresult', hsession', Call.ask, Except.map]
  | getProbes => simp only [Call.run, hresult, hsession, Call.ask, Except.map]
  | askSnapshot question =>
      cases question with
      | _ =>
          simp only [Call.run, Session.isOsVersionAtLeast, Session.isRuntimeVersionAtLeast,
            Session.askSnapshot, Attempt.result_bind, hresult', hsession', Call.ask,
            SnapshotQuestion.ask, Except.bind, Attempt.result_ofExcept]
  | askProbes question =>
      cases question with
      | _ =>
          simp only [Call.run, Session.releaseName, Session.releaseVersion, Session.hasXdgOpen,
            Session.hasXdgMime, Session.askProbes, hresult, Call.ask, ProbesQuestion.ask]

theorem run_of_error (h : session.probes.get (Session.start w).result = (.error failure, .unset))
    (call : Call) : call.run session w = (.error failure, ⟨.unset⟩) := by
  obtain ⟨hresult, hsession⟩ := getProbes_of_error h
  obtain ⟨hresult', hsession'⟩ := getSnapshot_of_error h
  cases call with
  | getSnapshot => simp only [Call.run, hresult', hsession', Except.map]
  | getProbes => simp only [Call.run, hresult, hsession, Except.map]
  | askSnapshot question =>
      cases question with
      | _ =>
          simp only [Call.run, Session.isOsVersionAtLeast, Session.isRuntimeVersionAtLeast,
            Session.askSnapshot, Attempt.result_bind, hresult', hsession', Except.bind,
            Except.map]
  | askProbes question =>
      cases question with
      | _ =>
          simp only [Call.run, Session.releaseName, Session.releaseVersion, Session.hasXdgOpen,
            Session.hasXdgMime, Session.askProbes, hresult, hsession, Except.map]

theorem run_set (p : Probes) (w : World) (call : Call) :
    call.run ⟨.set p⟩ w = ((call.ask p w).1, ⟨.set (call.ask p w).2⟩) :=
  run_of_ok rfl call

end Calls

namespace Shared

/-! ## The session of a shared one -/

/-- What the shared session is to one who is alone in it. -/
def session (s : Shared) : Session :=
  match s.probes.bind (s.probesObjects[·]?) with
  | none => ⟨.unset⟩
  | some o =>
    match o.info.bind (s.snapshots[·]?) with
    | none => ⟨.unset⟩
    | some snapshot => ⟨.set (o.probes snapshot)⟩

variable {phase : Phase} {s : Shared} {t : Nat} {call : Call} {p : Probes}

theorem session_eq {snapshot : Snapshot} {o : ProbesObject} (hprobes : s.probes = some 0)
    (hobjects : s.probesObjects = [o]) (hinfo : o.info = some 0)
    (hsnapshots : s.snapshots = [snapshot]) : s.session = ⟨.set (o.probes snapshot)⟩ := by
  simp only [session, hprobes, hobjects, hinfo, hsnapshots, Option.bind_some,
    List.getElem?_cons_zero]

/-- The call of a thread that has all turns is done and has come to the same
as in one go. -/
def Undisturbed (s s' : Shared) (t : Nat) (call : Call) : Prop :=
  s'.stages t = .idle
    ∧ s'.session = (call.run s.session s.world).2
    ∧ ∃ object, s'.ended
      = s.ended ++ [⟨t, call, object, .result (call.run s.session s.world).1, s.world⟩]

/-! ## With the session ready -/

theorem next_asserting (hi : Inv (.ready p) s) (hst : s.stages t = .asserting call) :
    s.next (.step t) = s.moveTo t (.fetching call) := by
  simp only [next, step?, hst, variableOf_eq hi.shows, Option.getD_some]

theorem next_fetching (hi : Inv (.ready p) s) (hst : s.stages t = .fetching call) :
    s.next (.step t) = s.moveTo t (.holding call 0) := by
  simp only [next, step?, hst, variableOf_eq hi.shows, Option.getD_some]

theorem undisturbed_of_holding (hi : Inv (.ready p) s) (hst : s.stages t = .holding call 0) :
    s.Undisturbed (s.next (.step t)) t call := by
  obtain ⟨-, hprobes, hsnapshots, -, o, hobjects, hinfo, -⟩ := hi.shows
  obtain ⟨o', hanswer, hinfo', hprobes'⟩ := answer_eq hsnapshots hobjects hinfo call
  rw [Undisturbed, session_eq hprobes hobjects hinfo hsnapshots, run_set, ← hprobes']
  simp only [next, step?, hst, hanswer, Option.getD_some]
  exact ⟨if_pos rfl, session_eq hprobes rfl hinfo' hsnapshots, some 0, rfl⟩

theorem undisturbed_of_asserting (hi : Inv (.ready p) s) (hst : s.stages t = .asserting call) :
    s.Undisturbed (s.run [.step t, .step t, .step t]) t call := by
  have hfetching := hi.move (.fetching call) hst rfl ⟨p, rfl⟩
  have hholding := hfetching.move (.holding call 0) stages_moveTo_self rfl ⟨rfl, p, rfl⟩
  simp only [run, List.foldl_cons, List.foldl_nil]
  rw [next_asserting hi hst, next_fetching hfetching stages_moveTo_self]
  exact undisturbed_of_holding hholding stages_moveTo_self

theorem undisturbed_of_ready (hi : Inv (.ready p) s) (hst : s.stages t = .idle) (call : Call) :
    s.Undisturbed (s.run (.call t call :: List.replicate 4 (.step t))) t call := by
  have hprobes : (s.moveTo t (.asking call)).probes = some 0 := hi.shows.probes_eq
  have hasking := hi.move (.asking call) hst rfl trivial
  have hasserting := hasking.move (.asserting call) stages_moveTo_self rfl ⟨p, rfl⟩
  have hcall : s.next (.call t call) = s.moveTo t (.asking call) := by
    simp only [next, hst]
  have hstep : (s.moveTo t (.asking call)).next (.step t)
      = (s.moveTo t (.asking call)).moveTo t (.asserting call) := by
    simp only [next, step?, stages_moveTo_self, hprobes, Option.getD_some]
  have hrest := undisturbed_of_asserting hasserting stages_moveTo_self
  simp only [run, List.replicate, List.foldl_cons, List.foldl_nil] at hrest ⊢
  rw [hcall, hstep]
  exact hrest

/-! ## With nothing there -/

theorem undisturbed_of_error (hi : Inv .unset s) (hholder : s.holder = none)
    (hst : s.stages t = .idle) {failure : Failure}
    (hstart : (Session.start s.world).result = .error failure) (call : Call) :
    s.Undisturbed (s.run (.call t call :: List.replicate 5 (.step t))) t call := by
  have hprobes : s.probes = none := hi.shows.probes_eq
  have hsession : s.session = ⟨.unset⟩ := by
    simp only [session, hprobes, Option.bind_none]
  have hget : s.session.probes.get (Session.start s.world).result = (.error failure, .unset) := by
    rw [hsession, hstart]
    rfl
  rw [Undisturbed, run_of_error hget]
  simp only [run, List.replicate, List.foldl_cons, List.foldl_nil, next, step?, moveTo, finish,
    hst, hprobes, hholder, hstart, Option.getD_some, if_true]
  refine ⟨trivial, ?_, none, rfl⟩
  simp only [session, Option.bind_none]

/-- Eight steps lead to a session that is ready. -/
theorem exists_asserting_of_ok (hi : Inv .unset s) (hholder : s.holder = none)
    (hst : s.stages t = .idle) (hstart : (Session.start s.world).result = .ok p) (call : Call) :
    ∃ s', s.run (.call t call :: List.replicate 8 (.step t)) = s'
      ∧ s'.stages t = .asserting call ∧ s'.session = ⟨.set p⟩ ∧ s'.probes = some 0
      ∧ s'.ended = s.ended ∧ s'.world = s.world := by
  have hprobes : s.probes = none := hi.shows.probes_eq
  have hsnapshots : s.snapshots = [] := hi.shows.snapshots_eq
  have hobjects : s.probesObjects = [] := hi.shows.recorded.1
  have hp : ({ info := some 0, settings := p.settings } : ProbesObject).probes p.snapshot = p :=
    (start_eq hstart).symm
  refine ⟨_, rfl, ?_⟩
  simp only [run, List.replicate, List.foldl_cons, List.foldl_nil, next, step?, moveTo, hst,
    hprobes, hholder, hstart, hsnapshots, hobjects, List.length_nil, List.nil_append,
    Option.getD_some, if_true]
  refine ⟨trivial, ?_, trivial, trivial, trivial⟩
  rw [session_eq rfl rfl rfl rfl, hp]

theorem undisturbed_of_ok (hi : Inv .unset s) (hholder : s.holder = none)
    (hst : s.stages t = .idle) (hstart : (Session.start s.world).result = .ok p) (call : Call) :
    s.Undisturbed (s.run (.call t call :: List.replicate 11 (.step t))) t call := by
  have hprobes : s.probes = none := hi.shows.probes_eq
  have hsession : s.session = ⟨.unset⟩ := by
    simp only [session, hprobes, Option.bind_none]
  have hget : s.session.probes.get (Session.start s.world).result = (.ok p, .set p) := by
    rw [hsession, hstart]
    rfl
  obtain ⟨s', hrun, hst', hsession', hprobes', hended', hworld'⟩ :=
    exists_asserting_of_ok hi hholder hst hstart call
  obtain ⟨phase, hi', -⟩ := hi.run (.call t call :: List.replicate 8 (.step t))
  rw [hrun] at hi'
  obtain ⟨q, rfl⟩ := hi'.exists_ready hprobes'
  have hsplit : s.run (.call t call :: List.replicate 11 (.step t))
      = s'.run [.step t, .step t, .step t] := by
    rw [← hrun]
    rfl
  have hrest := undisturbed_of_asserting hi' hst'
  rw [Undisturbed, hsession', hworld', hended', run_set] at hrest
  rw [hsplit, Undisturbed, run_of_ok hget]
  exact hrest

/-! ## All together -/

/-- A thread that calls while nobody has the lock and then has all turns is
done after at most eleven steps, with the answer that the call has in one go. -/
theorem exists_undisturbed (hi : Inv phase s) (hholder : s.holder = none)
    (hst : s.stages t = .idle) (call : Call) :
    ∃ n ≤ 11, s.Undisturbed (s.run (.call t call :: List.replicate n (.step t))) t call := by
  have hsettled := hi.settled hholder
  cases phase with
  | taken p | stored p | built p => exact hsettled.elim
  | ready p => exact ⟨4, by decide, undisturbed_of_ready hi hst call⟩
  | unset =>
      cases hstart : (Session.start s.world).result with
      | error failure => exact ⟨5, by decide, undisturbed_of_error hi hholder hst hstart call⟩
      | ok p => exact ⟨11, by decide, undisturbed_of_ok hi hholder hst hstart call⟩

end Shared

end HostFacts.Session
