import HostFacts.Proofs.Session.Alone

/-!
# Agreement of the threads in a session

Whatever the threads call, in whatever order they move, and however the world
changes meanwhile: all calls that come to an object come to the same snapshot
and the same probes, those of the one attempt that succeeded. An attempt that
fails leaves everything as it was, and whoever calls next makes another one.

That the probes are the last thing to be filled is what makes the look
without the lock safe. The variable of the snapshot is filled before, but no
thread reads it in that time save the one that has filled it.
-/

namespace HostFacts.Session

/-! ## Attempts -/

theorem Tried.eq_last {attempts : List World} {origin : Option Probes}
    (h : Tried attempts origin) {i : Nat} {w : World} {p : Probes} (hw : attempts[i]? = some w)
    (hp : (Session.start w).result = .ok p) : i + 1 = attempts.length := by
  have hnot {ws : List World} (hfailed : ∀ v ∈ ws, Failed v) (hmem : w ∈ ws) : False := by
    obtain ⟨failure, hf⟩ := hfailed w hmem
    have hclash := hp.symm.trans hf
    cases hclash
  cases origin with
  | none => exact (hnot h (List.mem_of_getElem? hw)).elim
  | some q =>
      obtain ⟨failed, last, rfl, hfailed, -⟩ := h
      rw [List.length_append, List.length_singleton]
      rcases Nat.lt_or_ge i failed.length with hlt | hge
      · rw [List.getElem?_append_left hlt] at hw
        exact (hnot hfailed (List.mem_of_getElem? hw)).elim
      · obtain ⟨hlt, -⟩ := List.getElem?_eq_some_iff.mp hw
        rw [List.length_append, List.length_singleton] at hlt
        omega

theorem Tried.of_last {attempts : List World} {p : Probes} (h : Tried attempts (some p)) :
    ∃ w, attempts.getLast? = some w ∧ (Session.start w).result = .ok p := by
  obtain ⟨failed, w, rfl, -, hstart⟩ := h
  exact ⟨w, List.getLast?_concat .., hstart⟩

/-! ## Sessions that have started -/

/-- The session has started with what the last attempt gave, and everyone who
got an object of it got these. -/
structure Shared.StartedWith (s : Shared) (p : Probes) : Prop where
  of_last : ∃ w, s.attempts.getLast? = some w ∧ (Session.start w).result = .ok p
  both_set : s.snapshot = some 0 ∧ s.probes = some 0
  snapshots_eq : s.snapshots = [p.snapshot]
  object : ∃ o, s.probesObjects = [o] ∧ o.info = some 0 ∧ o.settings = p.settings
    ∧ Told s.attempts p s.ended (o.probes p.snapshot)

namespace Inv

variable {phase : Phase} {s : Shared} {p : Probes}

theorem startedWith (hi : Inv (.ready p) s) : s.StartedWith p := by
  obtain ⟨hsnapshot, hprobes, hsnapshots, htried, o, hobjects, hinfo, htold⟩ := hi.shows
  exact ⟨htried.of_last, ⟨hsnapshot, hprobes⟩, hsnapshots, o, hobjects, hinfo,
    htold.snapshot_settings.2, htold⟩

theorem eq_ready (hi : Inv phase s) (h : s.StartedWith p) : phase = .ready p := by
  obtain ⟨q, rfl⟩ := hi.exists_ready h.both_set.2
  obtain ⟨w, hlast, hp⟩ := h.of_last
  obtain ⟨w', hlast', hq⟩ := Tried.of_last hi.shows.tried
  cases hlast.symm.trans hlast'
  cases hp.symm.trans hq
  rfl

theorem startedWith_run (hi : Inv phase s) (h : s.StartedWith p) (events : List Event) :
    (s.run events).StartedWith p := by
  obtain ⟨phase', hi', hready⟩ := hi.run events
  rw [hready p (hi.eq_ready h)] at hi'
  exact hi'.startedWith

/-! ## Calls that ended -/

theorem of_ended (hi : Inv phase s) {e : Ended} (he : e ∈ s.ended) :
    e.OfFailure s.attempts ∨ e.object = some 0 ∧ ∃ p q : Probes, s.StartedWith p
      ∧ q.snapshot = p.snapshot ∧ q.settings = p.settings
      ∧ e.outcome = .result (e.call.ask q e.world).1 := by
  have hrecorded := hi.shows.recorded
  cases phase with
  | unset | taken p | stored p | built p => exact .inl (hrecorded.2 e he)
  | ready p =>
      obtain ⟨o, -, -, htold⟩ := hrecorded
      rcases htold.of_mem he with hf | ⟨hobject, q, hq⟩
      · exact .inl hf
      · exact .inr ⟨hobject, p, q, hi.startedWith, hq⟩

/-! ## Failures -/

theorem unset_of_leaving (hi : Inv phase s) {t : Nat} {call : Call} {failure : Failure}
    (hst : s.stages t = .leaving call (some failure)) :
    s.snapshot = none ∧ s.probes = none ∧ s.holder = some t := by
  obtain ⟨rfl, -⟩ := hi.fits_of hst
  exact ⟨hi.shows.snapshot_eq, hi.shows.probes_eq, (hi.holder_eq_iff hst).mpr rfl⟩

end Inv

namespace Shared

variable {s : Shared} {t : Nat} {call : Call}

theorem stages_of_attempting {failure : Failure} (hst : s.stages t = .attempting call)
    (hfailure : (Session.start s.world).result = .error failure) :
    (s.next (.step t)).stages t = .leaving call (some failure) := by
  simp only [next, step?, hst, hfailure, Option.getD_some]
  exact stages_moveTo_self

/-- A failed attempt takes one more step, which gives the lock back. -/
theorem next_leaving {failure : Failure} (hst : s.stages t = .leaving call (some failure)) :
    s.next (.step t)
      = { s.finish t call none (.result (.error failure)) with holder := none } := by
  simp only [next, step?, hst, Option.getD_some]

/-- Who calls while the session has not started, and nobody is about to start
it, makes an attempt in the world as it is by then. -/
theorem attempts_of_call (hprobes : s.probes = none) (hholder : s.holder = none)
    (hst : s.stages t = .idle) (call : Call) (w : World) :
    (s.run [.call t call, .step t, .step t, .step t, .change w, .step t]).attempts
      = s.attempts ++ [w] := by
  simp only [run, List.foldl_cons, List.foldl_nil, next, step?, moveTo, hst, hprobes, hholder,
    Option.getD_some, if_true]
  cases (Session.start w).result <;> rfl

/-! ## The headline theorem -/

/-- What holds of a session that threads share, at every moment. -/
structure Agrees (s : Shared) : Prop where
  /-- The probes in their variable are those of the snapshot in the other. -/
  info_eq : ∀ number, s.probes = some number →
    ∃ o snapshot, s.probesObjects[number]? = some o ∧ s.snapshot = some snapshot
      ∧ o.info = some snapshot
  /-- No assertion has failed, and nobody got nothing. -/
  no_fault : ∀ e ∈ s.ended, e.outcome ≠ .assertionFailed ∧ e.outcome ≠ .noObject
  of_attempt : ∀ t call failure, s.stages t = .attempting call →
    (Session.start s.world).result = .error failure →
      (s.next (.step t)).stages t = .leaving call (some failure)
  /-- Nothing is set when an attempt has failed, and the next step gives the lock back. -/
  of_failure : ∀ t call failure, s.stages t = .leaving call (some failure) →
    s.snapshot = none ∧ s.probes = none ∧ s.holder = some t
      ∧ (s.next (.step t)).snapshot = none ∧ (s.next (.step t)).probes = none
      ∧ (s.next (.step t)).holder = none
      ∧ (s.next (.step t)).ended
        = s.ended ++ [⟨t, call, none, .result (.error failure), s.world⟩]
  /-- The next one who calls makes another attempt. -/
  tries_again : s.probes = none → s.holder = none → ∀ t, s.stages t = .idle → ∀ call w,
    (s.run [.call t call, .step t, .step t, .step t, .change w, .step t]).attempts
      = s.attempts ++ [w]
  /-- A call that nobody disturbs ends, and comes to the same as in one go. -/
  undisturbed : s.holder = none → ∀ t, s.stages t = .idle → ∀ call,
    ∃ n ≤ 11, s.Undisturbed (s.run (.call t call :: List.replicate n (.step t))) t call
  /-- An attempt that succeeds is the last one. -/
  eq_last : ∀ (i : Nat) (w : World) (p : Probes), s.attempts[i]? = some w →
    (Session.start w).result = .ok p → i + 1 = s.attempts.length
  /-- A call ended with the failure of an attempt or came to an object of the one that
  succeeded, and has its answer from there. -/
  of_ended : ∀ e ∈ s.ended, e.OfFailure s.attempts ∨ e.object = some 0 ∧ ∃ p q : Probes,
    s.StartedWith p ∧ q.snapshot = p.snapshot ∧ q.settings = p.settings
      ∧ e.outcome = .result (e.call.ask q e.world).1
  started : ∀ number, s.probes = some number → ∃ p, s.StartedWith p
  /-- What the session started with stays, whatever happens. -/
  lasting : ∀ p, s.StartedWith p → ∀ events, (s.run events).StartedWith p

end Shared

theorem Inv.agrees {phase : Phase} {s : Shared} (hi : Inv phase s) : s.Agrees where
  info_eq number h := by
    obtain ⟨p, rfl⟩ := hi.exists_ready h
    obtain ⟨hsnapshot, hprobes, -, -, o, hobjects, hinfo, -⟩ := hi.shows
    cases h.symm.trans hprobes
    exact ⟨o, 0, by rw [hobjects]; rfl, hsnapshot, hinfo⟩
  no_fault e he := by
    rcases hi.of_ended he with ⟨-, failure, hout, -⟩ | ⟨-, p, q, -, -, -, hout⟩
    · rw [hout]
      exact ⟨nofun, nofun⟩
    · rw [hout]
      exact ⟨nofun, nofun⟩
  of_attempt t call failure hst hfailure := Shared.stages_of_attempting hst hfailure
  of_failure t call failure hst := by
    obtain ⟨hsnapshot, hprobes, hholder⟩ := hi.unset_of_leaving hst
    rw [Shared.next_leaving hst]
    exact ⟨hsnapshot, hprobes, hholder, hsnapshot, hprobes, rfl, rfl⟩
  tries_again hprobes hholder t hst call w := Shared.attempts_of_call hprobes hholder hst call w
  undisturbed hholder t hst call := Shared.exists_undisturbed hi hholder hst call
  eq_last i w p hw hp := hi.shows.tried.eq_last hw hp
  of_ended e he := hi.of_ended he
  started number h := by
    obtain ⟨p, rfl⟩ := hi.exists_ready h
    exact ⟨p, hi.startedWith⟩
  lasting p h events := hi.startedWith_run h events

/-- **Agreement.** Threads that share a session, in any number, with any calls,
under any schedule and in a world that changes as it likes. -/
theorem Shared.run_agrees (w : World) (events : List Event) : ((start w).run events).Agrees := by
  obtain ⟨phase, hi, -⟩ := (Inv.start w).run events
  exact hi.agrees

end HostFacts.Session
