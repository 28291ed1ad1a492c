import Mathlib.Data.List.Nodup
import HostFacts.Proofs.Once.Moves

/-!
# The invariant of the threads at a cell

At every moment of a run the answers settled so far are those of as many
questions asked one after another (`inTurn`). The cell and the number of
calls of that sequence are what the state shows, except while the lock is
held by a thread whose call has not come back yet, or whose value is not
stored yet: the sequence is behind by that call, or ahead by that value.

`Inv` joins this with what each stage of a thread means (`Fits`). A move
changes the stage of one thread, and the others stay as they are, because
all that could disturb them is done under the lock (`Fits.frame`).
-/

namespace HostFacts.Once

variable {ε α : Type}

/-! ## Questions one after another -/

/-- The answers to `n` questions asked one after another, the cell after
them, and how often the computation was run by then. -/
def inTurn (script : Nat → Except ε α) (cell : Once α) (calls : Nat) :
    (n : Nat) → List (Except ε α) × Once α × Nat
  | 0 => ([], cell, calls)
  | n + 1 =>
    let (answers, cell, calls) := inTurn script cell calls n
    let (answer, after) := cell.get (script calls)
    (answers ++ [answer], after, if cell.isSet then calls else calls + 1)

/-- What the calls came to: to failures, and to one value that is the last of
all if it is kept. -/
def Past (script : Nat → Except ε α) : (cell : Once α) → (calls : Nat) → Prop
  | .unset, calls => ∀ k < calls, ∃ e, script k = .error e
  | .set a, calls => ∃ k, calls = k + 1 ∧ script k = .ok a ∧ ∀ j < k, ∃ e, script j = .error e

variable {script : Nat → Except ε α} {cell cell₀ : Once α} {calls calls₀ : Nat}

/-- From the one cell and number of calls to the other by the question that
was answered, if there was one. -/
def GoesOn (script : Nat → Except ε α) (cell : Once α) (calls : Nat)
    (h : List (Nat × Except ε α)) (cell' : Once α) (calls' : Nat) : Prop :=
  match h with
  | [] => cell' = cell ∧ calls' = calls
  | [(_, answer)] =>
    cell.get (script calls) = (answer, cell')
      ∧ calls' = if cell.isSet then calls else calls + 1
  | _ => False

theorem inTurn_goesOn {h h' : List (Nat × Except ε α)} {cell' : Once α} {calls' : Nat}
    (hturn : inTurn script cell₀ calls₀ h.length = (h.map Prod.snd, cell, calls))
    (hgo : GoesOn script cell calls h' cell' calls') :
    inTurn script cell₀ calls₀ (h ++ h').length = ((h ++ h').map Prod.snd, cell', calls') := by
  match h', hgo with
  | [], ⟨hcell, hcalls⟩ => rw [List.append_nil, hcell, hcalls, hturn]
  | [(t, answer)], ⟨hget, hcalls⟩ =>
      rw [List.length_append, List.length_singleton, inTurn, hturn, hcalls, List.map_append]
      simp only [hget]
      rfl

theorem Past.get (h : Past script cell calls) :
    Past script (cell.get (script calls)).2 (if cell.isSet then calls else calls + 1) := by
  cases cell with
  | set a => exact h
  | unset =>
      cases hs : script calls with
      | ok a => exact ⟨calls, rfl, hs, h⟩
      | error e =>
          intro k hk
          rcases Nat.lt_succ_iff_lt_or_eq.mp hk with hlt | rfl
          · exact h k hlt
          · exact ⟨e, hs⟩

theorem Past.inTurn (h : Past script cell₀ calls₀) (n : Nat) :
    Past script (inTurn script cell₀ calls₀ n).2.1 (inTurn script cell₀ calls₀ n).2.2 := by
  induction n with
  | zero => exact h
  | succ n ih => exact ih.get

theorem Past.eq_last (hp : Past script cell calls) {k : Nat} (hk : k < calls) {a : α}
    (hs : script k = .ok a) : k + 1 = calls := by
  cases cell with
  | unset =>
      obtain ⟨e, he⟩ := hp k hk
      rw [hs] at he
      cases he
  | set b =>
      obtain ⟨last, rfl, -, hbefore⟩ := hp
      rcases Nat.lt_succ_iff_lt_or_eq.mp hk with hlt | rfl
      · obtain ⟨e, he⟩ := hbefore k hlt
        rw [hs] at he
        cases he
      · rfl

namespace Shared

/-! ## What the state shows -/

/-- The stage of the thread that has the lock. -/
def holderStage (s : Shared ε α) : Option (Stage ε α) := s.holder.bind fun t => s.stages[t]?

/-- The cell, with the value that the holder of the lock is about to store. -/
def cellAt (cell : Once α) : Option (Stage ε α) → Once α
  | some (.storing a) => .set a
  | _ => cell

/-- The number of calls without that which the holder of the lock is in. -/
def callsAt (calls : Nat) : Option (Stage ε α) → Nat
  | some (.computing call) => call
  | _ => calls

def shownCell (s : Shared ε α) : Once α := cellAt s.cell s.holderStage

def shownCalls (s : Shared ε α) : Nat := callsAt s.calls s.holderStage

theorem holderStage_eq {s : Shared ε α} {t : Nat} {stage : Stage ε α} (hl : s.holder = some t)
    (hst : s.stages[t]? = some stage) : s.holderStage = some stage := by
  rw [holderStage, hl]
  exact hst

theorem holderStage_eq_none {s : Shared ε α} (hl : s.holder = none) : s.holderStage = none := by
  rw [holderStage, hl]
  rfl

theorem holderStage_of_ne {s s' : Shared ε α} {t : Nat} {stage : Stage ε α}
    (hstages : s'.stages = s.stages.set t stage) (hholder : s'.holder = s.holder)
    (hne : s.holder ≠ some t) : s'.holderStage = s.holderStage := by
  unfold holderStage
  rw [hholder, hstages]
  cases hl : s.holder with
  | none => rfl
  | some u => exact List.getElem?_set_ne fun htu => hne (by rw [hl, htu])

/-! ## What a stage means -/

/-- What entitles a thread to its answer: the value in the cell, or its own
failed call. -/
def Backed (script : Nat → Except ε α) (calls₀ : Nat) (s : Shared ε α) (cs : List Nat) (t : Nat) :
    Except ε α → Prop
  | .ok a => s.cell = .set a
  | .error e => ∃ k, cs[k]? = some t ∧ script (calls₀ + k) = .error e

/-- What holds of a thread at a stage, after the calls of the threads `cs` and
with the answers `h` settled. -/
def Fits (script : Nat → Except ε α) (calls₀ : Nat) (s : Shared ε α) (cs : List Nat)
    (h : List (Nat × Except ε α)) (t : Nat) : Stage ε α → Prop
  | .asking | .waiting | .checking => t ∉ cs ∧ t ∉ h.map Prod.fst
  | .computing call =>
    s.cell = .unset ∧ call + 1 = s.calls ∧ cs.getLast? = some t ∧ t ∉ h.map Prod.fst
  | .storing a => s.cell = .unset ∧ (t, .ok a) ∈ h
  | .leaving answer =>
    (t, answer) ∈ h ∧ Backed script calls₀ s cs t answer
      ∧ ∀ e, answer = .error e → s.cell = .unset
  | .answered answer => (t, answer) ∈ h ∧ Backed script calls₀ s cs t answer

variable {s s' : Shared ε α} {cs cs' : List Nat} {h h' : List (Nat × Except ε α)} {t u : Nat}

theorem getElem?_append_of_some {β : Type} {l : List β} {k : Nat} {b : β} (hk : l[k]? = some b)
    (l' : List β) : (l ++ l')[k]? = some b := by
  obtain ⟨hlt, -⟩ := List.getElem?_eq_some_iff.mp hk
  rw [List.getElem?_append_left hlt, hk]

theorem nodup_append_singleton {β : Type} {l : List β} {b : β} (hl : l.Nodup) (hb : b ∉ l) :
    (l ++ [b]).Nodup := by
  rw [← List.concat_eq_append]
  exact hl.concat hb

theorem notMem_fst_append (hne : u ≠ t) (hh : ∀ p ∈ h', p.1 = t) (hu : u ∉ h.map Prod.fst) :
    u ∉ (h ++ h').map Prod.fst := by
  rw [List.map_append, List.mem_append, not_or]
  refine ⟨hu, fun hmem => ?_⟩
  obtain ⟨p, hp, rfl⟩ := List.mem_map.mp hmem
  exact hne (hh p hp)

/-- A move of `t` leaves the other threads as they are. It may write to the
cell or call the computation only if they do not have the lock. -/
theorem Fits.frame {stage : Stage ε α} (hne : u ≠ t) (hc : ∀ v ∈ cs', v = t)
    (hh : ∀ p ∈ h', p.1 = t)
    (hs : (s'.cell = s.cell ∧ s'.calls = s.calls ∧ cs' = [])
      ∨ (s.cell = .unset ∧ stage.hasLock = false))
    (hf : Fits script calls₀ s cs h u stage) :
    Fits script calls₀ s' (cs ++ cs') (h ++ h') u stage := by
  have hbacked : ∀ answer, (∀ a, answer = .ok a → s'.cell = s.cell) →
      Backed script calls₀ s cs u answer → Backed script calls₀ s' (cs ++ cs') u answer := by
    intro answer hcell hb
    cases answer with
    | ok a => exact (hcell a rfl).trans hb
    | error e =>
        obtain ⟨k, hk, he⟩ := hb
        exact ⟨k, getElem?_append_of_some hk cs', he⟩
  have hidle : u ∉ cs ∧ u ∉ h.map Prod.fst →
      u ∉ cs ++ cs' ∧ u ∉ (h ++ h').map Prod.fst := by
    rintro ⟨huc, huh⟩
    refine ⟨fun hmem => ?_, notMem_fst_append hne hh huh⟩
    rcases List.mem_append.mp hmem with hmem | hmem
    · exact huc hmem
    · exact hne (hc u hmem)
  cases stage with
  | asking => exact hidle hf
  | waiting => exact hidle hf
  | checking => exact hidle hf
  | computing call =>
      obtain ⟨hcell, hcalls, rfl⟩ | ⟨-, hlock⟩ := hs
      · obtain ⟨hu, hk, hlast, huh⟩ := hf
        rw [List.append_nil]
        exact ⟨hcell.trans hu, hk.trans hcalls.symm, hlast, notMem_fst_append hne hh huh⟩
      · cases hlock
  | storing a =>
      obtain ⟨hcell, -, -⟩ | ⟨-, hlock⟩ := hs
      · exact ⟨hcell.trans hf.1, List.mem_append_left _ hf.2⟩
      · cases hlock
  | leaving answer =>
      obtain ⟨hcell, -, -⟩ | ⟨-, hlock⟩ := hs
      · exact ⟨List.mem_append_left _ hf.1, hbacked answer (fun _ _ => hcell) hf.2.1,
          fun e he => hcell.trans (hf.2.2 e he)⟩
      · cases hlock
  | answered answer =>
      refine ⟨List.mem_append_left _ hf.1, hbacked answer (fun a ha => ?_) hf.2⟩
      obtain ⟨hcell, -, -⟩ | ⟨hunset, -⟩ := hs
      · exact hcell
      · subst ha
        exact absurd (hunset.symm.trans hf.2) (by simp)

/-! ## The invariant -/

/-- The invariant of a run that began with the cell `cell₀` after `calls₀` calls. -/
structure Inv (script : Nat → Except ε α) (cell₀ : Once α) (calls₀ : Nat) (s : Shared ε α)
    (cs : List Nat) (h : List (Nat × Except ε α)) : Prop where
  /-- The lock is with the one thread whose stage says so. -/
  holder_iff : ∀ t, s.holder = some t ↔ ∃ stage, s.stages[t]? = some stage ∧ stage.hasLock = true
  fits : ∀ t stage, s.stages[t]? = some stage → Fits script calls₀ s cs h t stage
  callers_nodup : cs.Nodup
  calls_eq : s.calls = calls₀ + cs.length
  threads_nodup : (h.map Prod.fst).Nodup
  threads_lt : ∀ p ∈ h, p.1 < s.stages.length
  /-- The answers settled are those to questions asked one after another. -/
  inTurn_eq : inTurn script cell₀ calls₀ h.length = (h.map Prod.snd, s.shownCell, s.shownCalls)

theorem Inv.start (cell : Once α) (calls threads : Nat) :
    Inv script cell calls (start cell calls threads) [] [] where
  holder_iff t := by
    constructor
    · intro hl
      cases hl
    · rintro ⟨stage, hst, hlock⟩
      obtain rfl := List.eq_of_mem_replicate (List.mem_of_getElem? hst)
      cases hlock
  fits t stage hst := by
    obtain rfl := List.eq_of_mem_replicate (List.mem_of_getElem? hst)
    exact ⟨List.not_mem_nil, List.not_mem_nil⟩
  callers_nodup := List.nodup_nil
  calls_eq := rfl
  threads_nodup := List.nodup_nil
  threads_lt p hp := absurd hp List.not_mem_nil
  inTurn_eq := rfl

theorem Inv.holder_eq_iff (hi : Inv script cell₀ calls₀ s cs h) {stage : Stage ε α}
    (hst : s.stages[t]? = some stage) : s.holder = some t ↔ stage.hasLock = true := by
  rw [hi.holder_iff t, hst]
  refine ⟨?_, fun hlock => ⟨stage, rfl, hlock⟩⟩
  rintro ⟨stage', heq, hlock⟩
  obtain rfl := Option.some.inj heq
  exact hlock

theorem Inv.shownCell_of_set (hi : Inv script cell₀ calls₀ s cs h) {a : α}
    (hc : s.cell = .set a) : s.shownCell = .set a := by
  unfold shownCell cellAt
  split
  · rename_i b hst
    obtain ⟨t, hl, hst⟩ := Option.bind_eq_some_iff.mp hst
    obtain ⟨hunset, -⟩ := hi.fits t _ hst
    rw [hc] at hunset
    cases hunset
  · exact hc

/-- A move of one thread keeps the invariant. What is left to see of each
move is how it passes on the lock, that it writes under the lock only, and
that the sequence of questions goes on by what it settles. -/
theorem Inv.change (hi : Inv script cell₀ calls₀ s cs h) {stage stage' : Stage ε α}
    (hst : s.stages[t]? = some stage) (hstages : s'.stages = s.stages.set t stage')
    (hholder : ∀ u, s'.holder = some u ↔
      if u = t then stage'.hasLock = true else s.holder = some u)
    (hcell : (s'.cell = s.cell ∧ cs' = []) ∨ (s.cell = .unset ∧ stage.hasLock = true))
    (hcalls : (cs' = [] ∧ s'.calls = s.calls) ∨ (cs' = [t] ∧ t ∉ cs ∧ s'.calls = s.calls + 1))
    (hh : ∀ p ∈ h', p.1 = t ∧ t ∉ h.map Prod.fst)
    (hfits : Fits script calls₀ s' (cs ++ cs') (h ++ h') t stage')
    (hgo : GoesOn script s.shownCell s.shownCalls h' s'.shownCell s'.shownCalls) :
    Inv script cell₀ calls₀ s' (cs ++ cs') (h ++ h') where
  holder_iff u := by
    rw [hholder u, hstages]
    by_cases hut : u = t
    · subst hut
      rw [if_pos rfl, List.getElem?_set_self (List.getElem?_eq_some_iff.mp hst).1]
      refine ⟨fun hlock => ⟨stage', rfl, hlock⟩, ?_⟩
      rintro ⟨stage'', heq, hlock⟩
      obtain rfl := Option.some.inj heq
      exact hlock
    · rw [if_neg hut, List.getElem?_set_ne fun htu => hut htu.symm]
      exact hi.holder_iff u
  fits u stage'' hu := by
    by_cases hut : u = t
    · subst hut
      rw [hstages, List.getElem?_set_self (List.getElem?_eq_some_iff.mp hst).1] at hu
      obtain rfl := Option.some.inj hu
      exact hfits
    · rw [hstages, List.getElem?_set_ne fun htu => hut htu.symm] at hu
      refine (hi.fits u stage'' hu).frame hut ?_ ?_ ?_
      · obtain ⟨rfl, -⟩ | ⟨rfl, -⟩ := hcalls
        · exact fun v hv => absurd hv List.not_mem_nil
        · exact fun v hv => List.mem_singleton.mp hv
      · exact fun p hp => (hh p hp).1
      · obtain ⟨hcell, rfl⟩ | ⟨hunset, hlock⟩ := hcell
        · obtain ⟨-, hcalls⟩ | ⟨hc, -⟩ := hcalls
          · exact .inl ⟨hcell, hcalls, rfl⟩
          · cases hc
        · refine .inr ⟨hunset, Bool.eq_false_iff.mpr fun hlock' => hut ?_⟩
          have ht := (hi.holder_eq_iff hst).mpr hlock
          have hu := (hi.holder_eq_iff hu).mpr hlock'
          exact Option.some.inj (hu.symm.trans ht)
  callers_nodup := by
    obtain ⟨rfl, -⟩ | ⟨rfl, ht, -⟩ := hcalls
    · rw [List.append_nil]
      exact hi.callers_nodup
    · exact nodup_append_singleton hi.callers_nodup ht
  calls_eq := by
    obtain ⟨rfl, hcalls⟩ | ⟨rfl, -, hcalls⟩ := hcalls
    · rw [hcalls, List.append_nil]
      exact hi.calls_eq
    · rw [hcalls, hi.calls_eq, List.length_append]
      rfl
  threads_nodup := by
    match h', hgo with
    | [], _ =>
        rw [List.append_nil]
        exact hi.threads_nodup
    | [p], _ =>
        obtain ⟨rfl, ht⟩ := hh p (List.mem_singleton_self p)
        rw [List.map_append]
        exact nodup_append_singleton hi.threads_nodup ht
  threads_lt p hp := by
    rw [hstages, List.length_set]
    rcases List.mem_append.mp hp with hp | hp
    · exact hi.threads_lt p hp
    · rw [(hh p hp).1]
      exact (List.getElem?_eq_some_iff.mp hst).1
  inTurn_eq := inTurn_goesOn hi.inTurn_eq hgo

theorem Inv.holder_kept (hi : Inv script cell₀ calls₀ s cs h) {stage stage' : Stage ε α}
    (hst : s.stages[t]? = some stage) (hlock : stage'.hasLock = stage.hasLock) (u : Nat) :
    s.holder = some u ↔ if u = t then stage'.hasLock = true else s.holder = some u := by
  by_cases hut : u = t
  · rw [if_pos hut, hut, hlock]
    exact hi.holder_eq_iff hst
  · rw [if_neg hut]

theorem shownCell_eq {stage : Option (Stage ε α)} (hs : s.holderStage = stage) :
    s.shownCell = cellAt s.cell stage := by
  rw [shownCell, hs]

theorem shownCalls_eq {stage : Option (Stage ε α)} (hs : s.holderStage = stage) :
    s.shownCalls = callsAt s.calls stage := by
  rw [shownCalls, hs]

/-- A thread without the lock that moves on without it. -/
theorem Inv.of_move_unlocked (hi : Inv script cell₀ calls₀ s cs h) {stage stage' : Stage ε α}
    (hst : s.stages[t]? = some stage) (hlock : stage.hasLock = false)
    (hlock' : stage'.hasLock = false) (hh : ∀ p ∈ h', p.1 = t ∧ t ∉ h.map Prod.fst)
    (hgo : GoesOn script s.shownCell s.shownCalls h' s.shownCell s.shownCalls)
    (hfits : Fits script calls₀ (s.moveTo t stage') (cs ++ []) (h ++ h') t stage') :
    Inv script cell₀ calls₀ (s.moveTo t stage') (cs ++ []) (h ++ h') := by
  have hne : s.holder ≠ some t := fun hl => by
    rw [hi.holder_eq_iff hst, hlock] at hl
    cases hl
  have hstage : (s.moveTo t stage').holderStage = s.holderStage :=
    holderStage_of_ne rfl rfl hne
  refine hi.change hst rfl (hi.holder_kept hst (hlock'.trans hlock.symm)) (.inl ⟨rfl, rfl⟩)
    (.inl ⟨rfl, rfl⟩) hh hfits ?_
  rw [shownCell_eq hstage, shownCalls_eq hstage]
  exact hgo

/-- A thread that moves on with the lock in its hands. -/
theorem Inv.of_move_locked (hi : Inv script cell₀ calls₀ s cs h) {stage stage' : Stage ε α}
    (hst : s.stages[t]? = some stage) (hlock : stage.hasLock = true)
    (hlock' : stage'.hasLock = true) (hstages : s'.stages = s.stages.set t stage')
    (hholder : s'.holder = s.holder)
    (hcell : (s'.cell = s.cell ∧ cs' = []) ∨ s.cell = .unset)
    (hcalls : (cs' = [] ∧ s'.calls = s.calls) ∨ (cs' = [t] ∧ t ∉ cs ∧ s'.calls = s.calls + 1))
    (hh : ∀ p ∈ h', p.1 = t ∧ t ∉ h.map Prod.fst)
    (hgo : GoesOn script (cellAt s.cell (some stage)) (callsAt s.calls (some stage)) h'
      (cellAt s'.cell (some stage')) (callsAt s'.calls (some stage')))
    (hfits : Fits script calls₀ s' (cs ++ cs') (h ++ h') t stage') :
    Inv script cell₀ calls₀ s' (cs ++ cs') (h ++ h') := by
  have hl := (hi.holder_eq_iff hst).mpr hlock
  have hst' : s'.stages[t]? = some stage' := by
    rw [hstages]
    exact List.getElem?_set_self (List.getElem?_eq_some_iff.mp hst).1
  have hs := holderStage_eq hl hst
  have hs' := holderStage_eq (hholder.trans hl) hst'
  refine hi.change hst hstages ?_ (hcell.imp_right fun hu => ⟨hu, hlock⟩) hcalls hh hfits ?_
  · rw [hholder]
    exact hi.holder_kept hst (hlock'.trans hlock.symm)
  · rw [shownCell_eq hs, shownCalls_eq hs, shownCell_eq hs', shownCalls_eq hs']
    exact hgo

theorem Inv.of_move (hi : Inv script cell₀ calls₀ s cs h) (hm : Move script s t s' cs' h') :
    Inv script cell₀ calls₀ s' (cs ++ cs') (h ++ h') := by
  have hnone : ∀ p ∈ ([] : List (Nat × Except ε α)), p.1 = t ∧ t ∉ h.map Prod.fst :=
    fun p hp => absurd hp List.not_mem_nil
  have hone : ∀ answer : Except ε α, t ∉ h.map Prod.fst →
      ∀ p ∈ [(t, answer)], p.1 = t ∧ t ∉ h.map Prod.fst :=
    fun answer ht p hp => ⟨congrArg Prod.fst (List.mem_singleton.mp hp), ht⟩
  have hlast : ∀ answer : Except ε α, (t, answer) ∈ h ++ [(t, answer)] :=
    fun answer => List.mem_append_right _ (List.mem_singleton_self _)
  cases hm with
  | idle => simpa using hi
  | @see a hst hc =>
      refine hi.of_move_unlocked hst rfl rfl (hone _ (hi.fits t _ hst).2) ?_ ⟨hlast _, hc⟩
      rw [hi.shownCell_of_set hc]
      exact ⟨rfl, rfl⟩
  | miss hst hc =>
      refine hi.of_move_unlocked hst rfl rfl hnone ⟨rfl, rfl⟩ ?_
      rw [List.append_nil, List.append_nil]
      exact hi.fits t _ hst
  | lock hst hl =>
      refine hi.change hst rfl (fun u => ?_) (.inl ⟨rfl, rfl⟩) (.inl ⟨rfl, rfl⟩) hnone ?_ ?_
      · by_cases hut : u = t
        · simp [hut, Stage.hasLock]
        · rw [if_neg hut, hl]
          exact ⟨fun he => absurd (Option.some.inj he).symm hut, fun he => by cases he⟩
      · rw [List.append_nil, List.append_nil]
        exact hi.fits t _ hst
      · have hs' := holderStage_eq (s := { s.moveTo t .checking with holder := some t }) rfl
          (stages_moveTo_self hst)
        rw [shownCell_eq (holderStage_eq_none hl), shownCalls_eq (holderStage_eq_none hl)]
        exact ⟨(shownCell_eq hs').trans rfl, (shownCalls_eq hs').trans rfl⟩
  | @find a hst hc =>
      refine hi.of_move_locked hst rfl rfl rfl rfl (.inl ⟨rfl, rfl⟩) (.inl ⟨rfl, rfl⟩)
        (hone _ (hi.fits t _ hst).2) ?_ ⟨hlast _, hc, fun e he => by cases he⟩
      simp only [cellAt, callsAt, GoesOn, moveTo]
      rw [hc]
      exact ⟨rfl, rfl⟩
  | call hst hc =>
      obtain ⟨htc, hth⟩ := hi.fits t _ hst
      refine hi.of_move_locked hst rfl rfl rfl rfl (.inr hc) (.inr ⟨rfl, htc, rfl⟩) hnone
        ⟨rfl, rfl⟩ ⟨hc, rfl, by simp, ?_⟩
      rw [List.append_nil]
      exact hth
  | @succeed call a hst hs =>
      obtain ⟨hc, hcall, -, hth⟩ := hi.fits t _ hst
      refine hi.of_move_locked hst rfl rfl rfl rfl (.inl ⟨rfl, rfl⟩) (.inl ⟨rfl, rfl⟩)
        (hone _ hth) ?_ ⟨hc, hlast _⟩
      simp only [cellAt, callsAt, GoesOn, moveTo]
      rw [hc, hs]
      exact ⟨rfl, hcall.symm⟩
  | @fail call e hst hs =>
      obtain ⟨hc, hcall, hlastc, hth⟩ := hi.fits t _ hst
      have hlen : call = calls₀ + (cs.length - 1) ∧ cs.length - 1 < cs.length := by
        have hne : cs ≠ [] := fun he => by rw [he] at hlastc; cases hlastc
        have hpos := List.length_pos_iff.mpr hne
        have hcalls := hi.calls_eq
        omega
      refine hi.of_move_locked hst rfl rfl rfl rfl (.inl ⟨rfl, rfl⟩) (.inl ⟨rfl, rfl⟩)
        (hone _ hth) ?_ ⟨hlast _, ⟨cs.length - 1, ?_, ?_⟩, fun e he => hc⟩
      · simp only [cellAt, callsAt, GoesOn, moveTo]
        rw [hc, hs]
        exact ⟨rfl, hcall.symm⟩
      · rw [List.append_nil, ← List.getLast?_eq_getElem?]
        exact hlastc
      · rw [← hlen.1]
        exact hs
  | @store a hst =>
      obtain ⟨hc, hth⟩ := hi.fits t _ hst
      refine hi.of_move_locked hst rfl rfl rfl rfl (.inr hc) (.inl ⟨rfl, rfl⟩) hnone
        ⟨rfl, rfl⟩ ⟨List.mem_append_left _ hth, rfl, fun e he => by cases he⟩
  | @unlock answer hst =>
      obtain ⟨hth, hb, -⟩ := hi.fits t _ hst
      have hl := (hi.holder_eq_iff hst).mpr rfl
      refine hi.change hst rfl (fun u => ?_) (.inl ⟨rfl, rfl⟩) (.inl ⟨rfl, rfl⟩) hnone ?_ ?_
      · by_cases hut : u = t
        · simp [hut, Stage.hasLock]
        · rw [if_neg hut, hl]
          exact ⟨fun he => (by cases he), fun he => absurd (Option.some.inj he).symm hut⟩
      · rw [List.append_nil, List.append_nil]
        exact ⟨hth, hb⟩
      · rw [shownCell_eq (holderStage_eq hl hst), shownCalls_eq (holderStage_eq hl hst),
          shownCell_eq (holderStage_eq_none rfl), shownCalls_eq (holderStage_eq_none rfl)]
        exact ⟨rfl, rfl⟩

theorem Inv.next (hi : Inv script cell₀ calls₀ s cs h) (t : Nat) :
    Inv script cell₀ calls₀ (s.next script t) (cs ++ s.caller t) (h ++ s.settled script t) :=
  hi.of_move (move_next script s t)

end Shared

end HostFacts.Once
