import HostFacts.Proofs.Session.Phases

/-!
# Steps of the threads in a session

Every stage of a thread has one lemma that says where its step leads; `Inv.next`
puts them together, and `Inv.run` follows a whole run. Those that have the
lock lead from one phase to the next, and those behind it find that the
session is ready.
-/

namespace HostFacts.Session

/-! ## The objects -/

theorem Shared.variableOf_eq {s : Shared} {p : Probes} (h : s.Shows (.ready p)) (call : Call) :
    s.variableOf call = some 0 := by
  cases call with
  | getSnapshot | askSnapshot => exact h.snapshot_eq
  | getProbes | askProbes => exact h.probes_eq

/-- The only objects there are answer as their probes do. -/
theorem Shared.answer_eq {s : Shared} {snapshot : Snapshot} {o : ProbesObject}
    (hsnapshots : s.snapshots = [snapshot]) (hobjects : s.probesObjects = [o])
    (hinfo : o.info = some 0) (call : Call) :
    ∃ o', s.answer call 0 = (.result (call.ask (o.probes snapshot) s.world).1, [o'])
      ∧ o'.info = some 0
      ∧ o'.probes snapshot = (call.ask (o.probes snapshot) s.world).2 := by
  unfold Shared.answer
  rw [hsnapshots, hobjects]
  cases call with
  | getSnapshot | getProbes | askSnapshot => exact ⟨o, rfl, hinfo, rfl⟩
  | askProbes question =>
      simp only [List.getElem?_cons_zero, hinfo, Option.bind_some]
      exact ⟨_, rfl, hinfo, probes_keep o snapshot s.world question⟩

namespace Inv

variable {phase : Phase} {s : Shared} {t : Nat} {call : Call}

/-! ## Before the lock -/

theorem leads_of_asking (hi : Inv phase s) (hst : s.stages t = .asking call) :
    Leads phase (s.next (.step t)) := by
  have hprobes := hi.shows.probes_eq
  simp only [Shared.next, Shared.step?, hst]
  cases hp : s.probes with
  | none => exact leads (hi.move (.waiting call) hst rfl trivial)
  | some number =>
      rw [hp] at hprobes
      cases phase with
      | ready p => exact leads (hi.move (.asserting call) hst rfl ⟨p, rfl⟩)
      | _ => cases hprobes

theorem leads_of_waiting (hi : Inv phase s) (hst : s.stages t = .waiting call) :
    Leads phase (s.next (.step t)) := by
  simp only [Shared.next, Shared.step?, hst]
  cases hl : s.holder with
  | some u => exact hi.leads
  | none =>
      refine leads ?_
      exact hi.change (.checking call) hst rfl (hi.holder_take hl rfl) hi.shows
        (hi.settled hl) (fun _ h => h) (fun _ => ⟨rfl, rfl⟩) nofun

/-! ## Under the lock -/

theorem leads_of_checking (hi : Inv phase s) (hst : s.stages t = .checking call) :
    Leads phase (s.next (.step t)) := by
  have hsettled : phase.Settled := hi.fits_of hst
  have hprobes := hi.shows.probes_eq
  simp only [Shared.next, Shared.step?, hst]
  cases phase with
  | unset =>
      rw [hprobes]
      exact leads (hi.move (.attempting call) hst rfl rfl)
  | ready p =>
      rw [hprobes]
      exact leads (hi.move (.leaving call none) hst rfl ⟨p, rfl⟩)
  | taken p | stored p | built p => exact hsettled.elim

theorem leads_of_attempting (hi : Inv phase s) (hst : s.stages t = .attempting call) :
    Leads phase (s.next (.step t)) := by
  obtain rfl : phase = .unset := hi.fits_of hst
  obtain ⟨hsnapshot, hprobes, hsnapshots, htried, hobjects, hended⟩ := hi.shows
  have hsub : s.attempts ⊆ s.attempts ++ [s.world] := List.subset_append_left _ _
  have hended' : ∀ e ∈ s.ended, e.OfFailure (s.attempts ++ [s.world]) :=
    fun e he => (hended e he).mono hsub
  simp only [Shared.next, Shared.step?, hst]
  cases hstart : (Session.start s.world).result with
  | error failure =>
      have hmem : s.world ∈ s.attempts ++ [s.world] := by simp
      refine hi.lead (.leaving call (some failure)) hst rfl rfl rfl rfl ?_
        ⟨rfl, s.world, hmem, hstart⟩ (fun _ h => by cases h)
      refine ⟨hsnapshot, hprobes, hsnapshots, fun w hw => ?_, hobjects, hended'⟩
      rcases List.mem_append.mp hw with hw | hw
      · exact htried w hw
      · exact ⟨failure, List.mem_singleton.mp hw ▸ hstart⟩
  | ok p =>
      have hnumber : s.snapshots.length = 0 := by rw [hsnapshots]; rfl
      have hsnapshots' : s.snapshots ++ [p.snapshot] = [p.snapshot] := by rw [hsnapshots]; rfl
      refine hi.lead (.storingSnapshot call s.snapshots.length p.settings) hst rfl rfl rfl rfl ?_
        ⟨hnumber, p, rfl, rfl⟩ (fun _ h => by cases h)
      exact ⟨hsnapshot, hprobes, hsnapshots', ⟨s.attempts, s.world, rfl, htried, hstart⟩,
        hobjects, hended'⟩

theorem leads_of_storingSnapshot {number : Nat} {settings : Settings} (hi : Inv phase s)
    (hst : s.stages t = .storingSnapshot call number settings) :
    Leads phase (s.next (.step t)) := by
  obtain ⟨rfl, p, rfl, hsettings⟩ := hi.fits_of hst
  obtain ⟨-, hprobes, hsnapshots, htried, hrecorded⟩ := hi.shows
  simp only [Shared.next, Shared.step?, hst]
  refine hi.lead (.building call settings) hst rfl rfl rfl rfl ?_ ⟨p, rfl, hsettings⟩
    (fun _ h => by cases h)
  exact ⟨rfl, hprobes, hsnapshots, htried, hrecorded⟩

theorem leads_of_building {settings : Settings} (hi : Inv phase s)
    (hst : s.stages t = .building call settings) : Leads phase (s.next (.step t)) := by
  obtain ⟨p, rfl, hsettings⟩ := hi.fits_of hst
  obtain ⟨hsnapshot, hprobes, hsnapshots, htried, hobjects, hended⟩ := hi.shows
  have hnumber : s.probesObjects.length = 0 := by rw [hobjects]; rfl
  have hobjects' : s.probesObjects ++ [{ info := s.snapshot, settings }]
      = [{ info := some 0, settings := p.settings }] := by
    rw [hobjects, hsnapshot, hsettings]
    rfl
  simp only [Shared.next, Shared.step?, hst]
  refine hi.lead (.storingProbes call s.probesObjects.length) hst rfl rfl rfl rfl ?_
    ⟨hnumber, p, rfl⟩ (fun _ h => by cases h)
  exact ⟨hsnapshot, hprobes, hsnapshots, htried, hobjects', hended⟩

theorem leads_of_storingProbes {number : Nat} (hi : Inv phase s)
    (hst : s.stages t = .storingProbes call number) : Leads phase (s.next (.step t)) := by
  obtain ⟨rfl, p, rfl⟩ := hi.fits_of hst
  obtain ⟨hsnapshot, -, hsnapshots, htried, hobjects, hended⟩ := hi.shows
  obtain ⟨failed, w, hattempts, hfailed, hstart⟩ := htried
  -- The object starts as what the attempt gave: nothing has been asked yet.
  have hp : ({ info := some 0, settings := p.settings } : ProbesObject).probes p.snapshot = p :=
    (start_eq hstart).symm
  have htold : Told s.attempts p s.ended
      (({ info := some 0, settings := p.settings } : ProbesObject).probes p.snapshot) := by
    rw [hp]
    exact .of_failures hended
  simp only [Shared.next, Shared.step?, hst]
  refine hi.lead (.leaving call none) hst rfl rfl rfl rfl ?_ ⟨p, rfl⟩ (fun _ h => by cases h)
  exact ⟨hsnapshot, rfl, hsnapshots, ⟨failed, w, hattempts, hfailed, hstart⟩,
    ⟨_, hobjects, rfl, htold⟩⟩

theorem leads_of_leaving {failure : Option Failure} (hi : Inv phase s)
    (hst : s.stages t = .leaving call failure) : Leads phase (s.next (.step t)) := by
  simp only [Shared.next, Shared.step?, hst]
  cases failure with
  | none =>
      obtain ⟨p, rfl⟩ := hi.fits_of hst
      exact leads (hi.give (.asserting call) hst rfl rfl rfl hi.shows ⟨p, rfl⟩ rfl trivial)
  | some failure =>
      obtain ⟨rfl, w, hw, hf⟩ := hi.fits_of hst
      obtain ⟨hsnapshot, hprobes, hsnapshots, htried, hobjects, hended⟩ := hi.shows
      refine leads (hi.give .idle hst rfl rfl rfl ?_ trivial rfl trivial)
      refine ⟨hsnapshot, hprobes, hsnapshots, htried, hobjects, fun e he => ?_⟩
      rcases List.mem_append.mp he with he | he
      · exact hended e he
      · rw [List.mem_singleton.mp he]
        exact ⟨rfl, failure, rfl, w, hw, hf⟩

/-! ## With the object -/

theorem leads_of_asserting (hi : Inv phase s) (hst : s.stages t = .asserting call) :
    Leads phase (s.next (.step t)) := by
  obtain ⟨p, rfl⟩ := hi.fits_of hst
  simp only [Shared.next, Shared.step?, hst, Shared.variableOf_eq hi.shows]
  exact leads (hi.move (.fetching call) hst rfl ⟨p, rfl⟩)

theorem leads_of_fetching (hi : Inv phase s) (hst : s.stages t = .fetching call) :
    Leads phase (s.next (.step t)) := by
  obtain ⟨p, rfl⟩ := hi.fits_of hst
  simp only [Shared.next, Shared.step?, hst, Shared.variableOf_eq hi.shows]
  exact leads (hi.move (.holding call 0) hst rfl ⟨rfl, p, rfl⟩)

theorem leads_of_holding {number : Nat} (hi : Inv phase s)
    (hst : s.stages t = .holding call number) : Leads phase (s.next (.step t)) := by
  obtain ⟨rfl, p, rfl⟩ := hi.fits_of hst
  obtain ⟨hsnapshot, hprobes, hsnapshots, htried, o, hobjects, hinfo, htold⟩ := hi.shows
  obtain ⟨o', hanswer, hinfo', hprobes'⟩ := Shared.answer_eq hsnapshots hobjects hinfo call
  simp only [Shared.next, Shared.step?, hst, hanswer]
  refine leads (hi.change .idle hst rfl (hi.holder_keep hst rfl) ?_ trivial (fun _ h => h)
    (fun _ => ⟨rfl, rfl⟩) hi.settled)
  refine ⟨hsnapshot, hprobes, hsnapshots, htried, o', rfl, hinfo', ?_⟩
  rw [hprobes']
  exact htold.answer rfl rfl

/-! ## Runs -/

theorem next (hi : Inv phase s) (event : Event) : Leads phase (s.next event) := by
  cases event with
  | change w => exact leads ⟨hi.shows, hi.fits, hi.holder_iff, hi.settled⟩
  | call t call =>
      simp only [Shared.next]
      cases hst : s.stages t with
      | idle => exact leads (hi.move (.asking call) hst rfl trivial)
      | _ => exact hi.leads
  | step t =>
      cases hst : s.stages t with
      | idle =>
          simp only [Shared.next, Shared.step?, hst]
          exact hi.leads
      | asking call => exact hi.leads_of_asking hst
      | waiting call => exact hi.leads_of_waiting hst
      | checking call => exact hi.leads_of_checking hst
      | attempting call => exact hi.leads_of_attempting hst
      | storingSnapshot call number settings => exact hi.leads_of_storingSnapshot hst
      | building call settings => exact hi.leads_of_building hst
      | storingProbes call number => exact hi.leads_of_storingProbes hst
      | leaving call failure => exact hi.leads_of_leaving hst
      | asserting call => exact hi.leads_of_asserting hst
      | fetching call => exact hi.leads_of_fetching hst
      | holding call number => exact hi.leads_of_holding hst

theorem run (hi : Inv phase s) (events : List Event) : Leads phase (s.run events) := by
  induction events generalizing phase s with
  | nil => exact hi.leads
  | cons event events ih =>
      obtain ⟨phase', hi', hready⟩ := hi.next event
      obtain ⟨phase'', hi'', hready'⟩ := ih hi'
      exact ⟨phase'', hi'', fun p h => hready' p (hready p h)⟩

end Inv

end HostFacts.Session
