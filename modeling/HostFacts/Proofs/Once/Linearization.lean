import Mathlib.Data.List.Perm.Basic
import HostFacts.Proofs.Once.Invariant

/-!
# Threads at a cell ask one after another

Whatever the schedule, threads that ask a cell at the same time get answers
that they could have got one after another, in the order in which these were
settled. An answer is settled between the first step of its thread and the
last one, so a thread that is done before another begins is also before it
in that order. `run_linearized` says this of every run from every cell that
nobody is at, with what follows for the computation: it is never run twice at
the same time, by no thread more than once, and not again after it succeeded.
-/

namespace HostFacts.Once

variable {ε α : Type}

namespace Shared

/-- Every thread has its answer. -/
def Finished (s : Shared ε α) : Prop := ∀ stage ∈ s.stages, ∃ answer, stage = .answered answer

/-- The cells that nobody is at, with the calls made for them: a new one, and
what threads leave behind when all of them have their answer. -/
inductive Quiescent (script : Nat → Except ε α) : (cell : Once α) → (calls : Nat) → Prop
  | new : Quiescent script .unset 0
  | after {cell : Once α} {calls : Nat} (hq : Quiescent script cell calls) (threads : Nat)
      (schedule : List Nat) (hdone : ((start cell calls threads).run script schedule).Finished) :
      Quiescent script ((start cell calls threads).run script schedule).cell
        ((start cell calls threads).run script schedule).calls

variable {script : Nat → Except ε α} {cell cell₀ : Once α} {calls calls₀ : Nat}
variable {s : Shared ε α} {cs : List Nat} {h : List (Nat × Except ε α)} {t : Nat}

/-! ## Runs -/

theorem Inv.run (hi : Inv script cell₀ calls₀ s cs h) (schedule : List Nat) :
    Inv script cell₀ calls₀ (s.run script schedule) (cs ++ s.callers script schedule)
      (h ++ s.history script schedule) := by
  induction schedule generalizing s cs h with
  | nil =>
      rw [callers, history, List.append_nil, List.append_nil]
      exact hi
  | cons t schedule ih =>
      rw [run_cons, callers, history, ← List.append_assoc, ← List.append_assoc]
      exact ih (hi.next t)

theorem run_stages_length (script : Nat → Except ε α) (s : Shared ε α) (schedule : List Nat) :
    (s.run script schedule).stages.length = s.stages.length := by
  induction schedule generalizing s with
  | nil => rfl
  | cons t schedule ih =>
      rw [run_cons, ih]
      exact (move_next script s t).stages_length

/-! ## Calls -/

theorem Inv.past (hi : Inv script cell₀ calls₀ s cs h) (hp : Past script cell₀ calls₀) :
    Past script s.shownCell s.shownCalls := by
  have hpast := hp.inTurn h.length
  rw [hi.inTurn_eq] at hpast
  exact hpast

/-- All calls came back, or one is running, and then the cell is empty. -/
theorem Inv.calls_cases (hi : Inv script cell₀ calls₀ s cs h) :
    s.shownCalls = s.calls ∨ s.shownCell = .unset ∧ s.shownCalls + 1 = s.calls := by
  cases hst : s.holderStage with
  | none => exact .inl (shownCalls_eq hst)
  | some stage =>
      cases stage with
      | computing call =>
          obtain ⟨t, -, hfits⟩ := Option.bind_eq_some_iff.mp hst
          obtain ⟨hcell, hcall, -⟩ := hi.fits t _ hfits
          exact .inr ⟨(shownCell_eq hst).trans hcell, by rw [shownCalls_eq hst]; exact hcall⟩
      | _ => exact .inl (shownCalls_eq hst)

theorem Inv.eq_last (hi : Inv script cell₀ calls₀ s cs h) (hp : Past script cell₀ calls₀)
    {k : Nat} (hk : k < s.calls) {a : α} (hs : script k = .ok a) : k + 1 = s.calls := by
  have hpast := hi.past hp
  rcases hi.calls_cases with heq | ⟨hcell, heq⟩
  · rw [← heq] at hk ⊢
    exact hpast.eq_last hk hs
  · rw [← heq] at hk ⊢
    rw [hcell] at hpast
    rcases Nat.lt_succ_iff_lt_or_eq.mp hk with hlt | rfl
    · obtain ⟨e, he⟩ := hpast k hlt
      rw [hs] at he
      cases he
    · rfl

theorem Inv.exists_call_of_set (hi : Inv script cell₀ calls₀ s cs h)
    (hp : Past script cell₀ calls₀) {a : α} (hc : s.cell = .set a) :
    ∃ k < s.calls, script k = .ok a := by
  have hpast := hi.past hp
  rw [hi.shownCell_of_set hc] at hpast
  obtain ⟨k, hk, hs, -⟩ := hpast
  rcases hi.calls_cases with heq | ⟨-, heq⟩
  · exact ⟨k, by omega, hs⟩
  · exact ⟨k, by omega, hs⟩

/-! ## When all threads are done -/

theorem exists_answers (stages : List (Stage ε α))
    (hdone : ∀ stage ∈ stages, ∃ answer, stage = .answered answer) :
    ∃ answers : List (Except ε α), stages = answers.map .answered := by
  induction stages with
  | nil => exact ⟨[], rfl⟩
  | cons stage stages ih =>
      obtain ⟨answer, rfl⟩ := hdone stage (List.mem_cons_self ..)
      obtain ⟨answers, rfl⟩ := ih fun stage hst => hdone stage (List.mem_cons_of_mem _ hst)
      exact ⟨answer :: answers, rfl⟩

theorem answers_eq {answers : List (Except ε α)} (hs : s.stages = answers.map .answered) :
    s.answers = answers := by
  rw [Shared.answers, hs, List.filterMap_map]
  exact List.filterMap_some

theorem Inv.perm_zipIdx (hi : Inv script cell₀ calls₀ s cs h) {answers : List (Except ε α)}
    (hs : s.stages = answers.map .answered) : h.Perm (answers.zipIdx.map Prod.swap) := by
  have hnodup : (answers.zipIdx.map Prod.swap).Nodup := by
    refine List.Nodup.of_map Prod.fst ?_
    have hfst : (answers.zipIdx.map Prod.swap).map Prod.fst = List.range' 0 answers.length := by
      rw [List.map_map, ← List.zipIdx_map_snd]
      rfl
    rw [hfst]
    exact List.nodup_range'
  have hanswer : ∀ t answer, answers[t]? = some answer → (t, answer) ∈ h := fun t answer ht =>
    (hi.fits t (.answered answer) (by rw [hs, List.getElem?_map, ht]; rfl)).1
  refine (List.perm_ext_iff_of_nodup (hi.threads_nodup.of_map _) hnodup).mpr ?_
  rintro ⟨t, answer⟩
  have hmem : (t, answer) ∈ answers.zipIdx.map Prod.swap ↔ answers[t]? = some answer := by
    rw [List.mem_map]
    constructor
    · rintro ⟨⟨answer', t'⟩, hmem, heq⟩
      obtain ⟨rfl, rfl⟩ := Prod.mk.inj heq
      exact List.mem_zipIdx_iff_getElem?.mp hmem
    · exact fun hget => ⟨(answer, t), List.mem_zipIdx_iff_getElem?.mpr hget, rfl⟩
  rw [hmem]
  refine ⟨fun hp => ?_, hanswer t answer⟩
  have hlt := hi.threads_lt _ hp
  rw [hs, List.length_map] at hlt
  have hget : answers[t]? = some answers[t] := List.getElem?_eq_getElem hlt
  rw [hget, Option.some.injEq]
  exact congrArg Prod.snd
    (List.inj_on_of_nodup_map hi.threads_nodup (hanswer t _ hget) hp rfl)

theorem Inv.holder_eq_none (hi : Inv script cell₀ calls₀ s cs h) (hdone : s.Finished) :
    s.holder = none := by
  cases hl : s.holder with
  | none => rfl
  | some t =>
      obtain ⟨stage, hst, hlock⟩ := (hi.holder_iff t).mp hl
      obtain ⟨answer, rfl⟩ := hdone stage (List.mem_of_getElem? hst)
      cases hlock

theorem Inv.finished (hi : Inv script cell₀ calls₀ s cs h) (hdone : s.Finished) :
    s.answers.Perm (inTurn script cell₀ calls₀ s.stages.length).1
      ∧ (inTurn script cell₀ calls₀ s.stages.length).2 = (s.cell, s.calls) := by
  obtain ⟨answers, hs⟩ := exists_answers s.stages hdone
  have hperm := hi.perm_zipIdx hs
  have hlen : h.length = s.stages.length := by
    rw [hperm.length_eq, List.length_map, List.length_zipIdx, hs, List.length_map]
  have hstage := holderStage_eq_none (hi.holder_eq_none hdone)
  rw [← hlen, hi.inTurn_eq, answers_eq hs, shownCell_eq hstage, shownCalls_eq hstage]
  refine ⟨?_, rfl⟩
  have hsnd : (answers.zipIdx.map Prod.swap).map Prod.snd = answers := by
    rw [List.map_map]
    exact List.zipIdx_map_fst 0 answers
  have hmap := (hperm.map Prod.snd).symm
  rw [hsnd] at hmap
  exact hmap

/-- No thread waits for ever: the holder of the lock can move, and if there is
none, anyone can who has no answer yet. -/
theorem Inv.exists_step (hi : Inv script cell₀ calls₀ s cs h) (hdone : ¬ s.Finished) :
    ∃ t s', s.step? script t = some s' := by
  cases hl : s.holder with
  | some t =>
      obtain ⟨stage, hst, hlock⟩ := (hi.holder_iff t).mp hl
      refine ⟨t, ?_⟩
      simp only [step?, hst]
      cases stage with
      | checking => cases s.cell <;> exact ⟨_, rfl⟩
      | computing call =>
          cases hs : script call with
          | ok a => exact ⟨s.moveTo t (.storing a), by simp only [hs]⟩
          | error e => exact ⟨s.moveTo t (.leaving (.error e)), by simp only [hs]⟩
      | storing a => exact ⟨_, rfl⟩
      | leaving answer => exact ⟨_, rfl⟩
      | _ => cases hlock
  | none =>
      simp only [Finished, not_forall] at hdone
      obtain ⟨stage, hmem, hstage⟩ := hdone
      obtain ⟨t, hst⟩ := List.getElem?_of_mem hmem
      refine ⟨t, ?_⟩
      simp only [step?, hst]
      cases stage with
      | asking => cases s.cell <;> exact ⟨_, rfl⟩
      | waiting => exact ⟨_, by rw [hl]⟩
      | answered answer => exact absurd ⟨answer, rfl⟩ hstage
      | _ =>
          have hlock := (hi.holder_eq_iff hst).mpr rfl
          rw [hl] at hlock
          cases hlock

/-! ## Cells that nobody is at -/

theorem Quiescent.past (hq : Quiescent script cell calls) : Past script cell calls := by
  induction hq with
  | new => exact fun k hk => absurd hk (Nat.not_lt_zero k)
  | @after cell calls hq threads schedule hdone ih =>
      have hi : Inv script cell calls _ _ _ := (Inv.start cell calls threads).run schedule
      have hstage := holderStage_eq_none (hi.holder_eq_none hdone)
      have hpast := hi.past ih
      rw [shownCell_eq hstage, shownCalls_eq hstage] at hpast
      exact hpast

/-! ## The headline theorem -/

/-- What a run of threads at a cell comes to, if `s` is the state after it, `cs`
who started the computation in it and `h` what answers it settled. -/
structure Linearized (script : Nat → Except ε α) (cell : Once α) (calls threads : Nat)
    (s : Shared ε α) (cs : List Nat) (h : List (Nat × Except ε α)) : Prop where
  /-- At most one thread is in the computation. -/
  exclusive : ∀ (t u k l : Nat), s.stages[t]? = some (.computing k) →
    s.stages[u]? = some (.computing l) → t = u
  /-- The calls of the run are those of `cs`, no two of one thread. -/
  calls_eq : s.calls = calls + cs.length ∧ cs.Nodup
  /-- Of all calls since the cell was new only the last one can have succeeded. -/
  eq_last : ∀ k < s.calls, ∀ a, script k = .ok a → k + 1 = s.calls
  /-- A value is that of a call, and is in the cell. -/
  of_ok : ∀ (t : Nat) (a : α), s.stages[t]? = some (.answered (.ok a)) →
    s.cell = .set a ∧ ∃ k < s.calls, script k = .ok a
  /-- A failure is that of the thread's own call. -/
  of_error : ∀ (t : Nat) (e : ε), s.stages[t]? = some (.leaving (.error e))
      ∨ s.stages[t]? = some (.answered (.error e)) →
    ∃ k, cs[k]? = some t ∧ script (calls + k) = .error e
  /-- It leaves the cell empty when the lock is given back. -/
  unset_of_error : ∀ (t : Nat) (e : ε), s.stages[t]? = some (.leaving (.error e)) →
    s.holder = some t ∧ s.cell = .unset
  /-- Each answer is settled once, after its thread began and before it is done. -/
  settled_once : (h.map Prod.fst).Nodup
    ∧ (∀ t : Nat, s.stages[t]? = some .asking → t ∉ h.map Prod.fst)
    ∧ ∀ (t : Nat) (answer : Except ε α), s.stages[t]? = some (.answered answer) → (t, answer) ∈ h
  /-- The answers in the order in which they were settled. -/
  in_turn : (inTurn script cell calls h.length).1 = h.map Prod.snd
  not_stuck : ¬ s.Finished → ∃ t s', s.step? script t = some s'
  /-- When all are done: the answers in some order, the cell, and the number of calls. -/
  finished : s.Finished →
    s.answers.Perm (inTurn script cell calls threads).1
      ∧ s.cell = (inTurn script cell calls threads).2.1
      ∧ s.cell.isSet = (inTurn script cell calls threads).2.1.isSet
      ∧ s.calls = (inTurn script cell calls threads).2.2

theorem Inv.linearized (hi : Inv script cell₀ calls₀ s cs h) (hp : Past script cell₀ calls₀) :
    Linearized script cell₀ calls₀ s.stages.length s cs h where
  exclusive t u k l ht hu := by
    have hlt := (hi.holder_eq_iff ht).mpr rfl
    have hlu := (hi.holder_eq_iff hu).mpr rfl
    exact Option.some.inj (hlt.symm.trans hlu)
  calls_eq := ⟨hi.calls_eq, hi.callers_nodup⟩
  eq_last k hk a hs := hi.eq_last hp hk hs
  of_ok t a ht := by
    obtain ⟨-, hcell⟩ := hi.fits t _ ht
    exact ⟨hcell, hi.exists_call_of_set hp hcell⟩
  of_error t e ht := by
    rcases ht with ht | ht
    · exact (hi.fits t _ ht).2.1
    · exact (hi.fits t _ ht).2
  unset_of_error t e ht := ⟨(hi.holder_eq_iff ht).mpr rfl, (hi.fits t _ ht).2.2 e rfl⟩
  settled_once :=
    ⟨hi.threads_nodup, fun t ht => (hi.fits t _ ht).2, fun t answer ht => (hi.fits t _ ht).1⟩
  in_turn := by rw [hi.inTurn_eq]
  not_stuck := hi.exists_step
  finished hdone := by
    obtain ⟨hperm, heq⟩ := hi.finished hdone
    rw [heq]
    exact ⟨hperm, rfl, rfl, rfl⟩

/-- **Linearizability.** Threads that ask a cell that nobody is at, in any
number and under any schedule. -/
theorem run_linearized {script : Nat → Except ε α} {cell : Once α} {calls : Nat}
    (hq : Quiescent script cell calls) (threads : Nat) (schedule : List Nat) :
    Linearized script cell calls threads ((start cell calls threads).run script schedule)
      ((start cell calls threads).callers script schedule)
      ((start cell calls threads).history script schedule) := by
  have hi : Inv script cell calls _ _ _ := (Inv.start cell calls threads).run schedule
  have hlen : ((start cell calls threads).run script schedule).stages.length = threads := by
    rw [run_stages_length]
    exact List.length_replicate
  rw [List.nil_append, List.nil_append] at hi
  have hlin := hi.linearized hq.past
  rw [hlen] at hlin
  exact hlin

/-- A computation that fails once and then gives zero. -/
def failsOnce (call : Nat) : Except Unit Nat := if call = 0 then .error () else .ok 0

/-- One thread finds out that the computation fails. Two more ask after it,
and the second of them looks between the call of the first and its store. -/
theorem run_linearized_failsOnce :
    Quiescent failsOnce .unset 1
      ∧ Linearized failsOnce .unset 1 2
        ((start .unset 1 2).run failsOnce [0, 0, 0, 0, 1, 0, 0, 1, 1, 1])
        ((start .unset 1 2).callers failsOnce [0, 0, 0, 0, 1, 0, 0, 1, 1, 1])
        ((start .unset 1 2).history failsOnce [0, 0, 0, 0, 1, 0, 0, 1, 1, 1]) := by
  have hq : Quiescent failsOnce .unset 1 := by
    refine Quiescent.after .new 1 [0, 0, 0, 0, 0] fun stage hst => ?_
    exact ⟨.error (), List.mem_singleton.mp hst⟩
  exact ⟨hq, run_linearized hq 2 _⟩

end Shared

end HostFacts.Once
