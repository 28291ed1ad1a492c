import HostFacts.Once.Threads

/-!
# What a step of a thread can do

A run is observed by two lists beside the state: who ran the computation
(`callers`), and who got which answer settled (`history`). An answer is
settled by the step that takes it from the cell or from the computation; all
that is left to its thread after that is to hand it out. `Move` lists what
one step can do to the state and to both lists, and `move_next` says that
there is nothing else.
-/

namespace HostFacts.Once

variable {ε α : Type}

/-- The thread has the lock. -/
def Stage.hasLock : Stage ε α → Bool
  | .checking | .computing _ | .storing _ | .leaving _ => true
  | .asking | .waiting | .answered _ => false

namespace Shared

/-! ## Observing a run -/

/-- The state after the turn of a thread. -/
def next (script : Nat → Except ε α) (s : Shared ε α) (thread : Nat) : Shared ε α :=
  (s.step? script thread).getD s

theorem run_cons (script : Nat → Except ε α) (s : Shared ε α) (thread : Nat)
    (schedule : List Nat) :
    s.run script (thread :: schedule) = (s.next script thread).run script schedule := rfl

/-- The thread if its turn starts the computation. -/
def caller (s : Shared ε α) (thread : Nat) : List Nat :=
  match s.stages[thread]?, s.cell with
  | some .checking, .unset => [thread]
  | _, _ => []

/-- The thread and its answer if its turn settles that. -/
def settled (script : Nat → Except ε α) (s : Shared ε α) (thread : Nat) :
    List (Nat × Except ε α) :=
  match s.stages[thread]?, s.cell with
  | some .asking, .set a | some .checking, .set a => [(thread, .ok a)]
  | some (.computing call), _ => [(thread, script call)]
  | _, _ => []

/-- Who starts the computation in a run, in this order. -/
def callers (script : Nat → Except ε α) (s : Shared ε α) : List Nat → List Nat
  | [] => []
  | thread :: schedule => s.caller thread ++ (s.next script thread).callers script schedule

/-- Who gets which answer settled in a run, in this order. -/
def history (script : Nat → Except ε α) (s : Shared ε α) : List Nat → List (Nat × Except ε α)
  | [] => []
  | thread :: schedule =>
    s.settled script thread ++ (s.next script thread).history script schedule

/-! ## The moves -/

/-- What the turn of a thread does: the state after it, whether it starts the
computation, and the answer that it settles. -/
inductive Move (script : Nat → Except ε α) (s : Shared ε α) (t : Nat) :
    Shared ε α → List Nat → List (Nat × Except ε α) → Prop
  | idle : Move script s t s [] []
  | see {a : α} (hst : s.stages[t]? = some .asking) (hc : s.cell = .set a) :
      Move script s t (s.moveTo t (.answered (.ok a))) [] [(t, .ok a)]
  | miss (hst : s.stages[t]? = some .asking) (hc : s.cell = .unset) :
      Move script s t (s.moveTo t .waiting) [] []
  | lock (hst : s.stages[t]? = some .waiting) (hl : s.holder = none) :
      Move script s t { s.moveTo t .checking with holder := some t } [] []
  | find {a : α} (hst : s.stages[t]? = some .checking) (hc : s.cell = .set a) :
      Move script s t (s.moveTo t (.leaving (.ok a))) [] [(t, .ok a)]
  | call (hst : s.stages[t]? = some .checking) (hc : s.cell = .unset) :
      Move script s t { s.moveTo t (.computing s.calls) with calls := s.calls + 1 } [t] []
  | succeed {call : Nat} {a : α} (hst : s.stages[t]? = some (.computing call))
      (hs : script call = .ok a) : Move script s t (s.moveTo t (.storing a)) [] [(t, .ok a)]
  | fail {call : Nat} {e : ε} (hst : s.stages[t]? = some (.computing call))
      (hs : script call = .error e) :
      Move script s t (s.moveTo t (.leaving (.error e))) [] [(t, .error e)]
  | store {a : α} (hst : s.stages[t]? = some (.storing a)) :
      Move script s t { s.moveTo t (.leaving (.ok a)) with cell := .set a } [] []
  | unlock {answer : Except ε α} (hst : s.stages[t]? = some (.leaving answer)) :
      Move script s t { s.moveTo t (.answered answer) with holder := none } [] []

theorem move_next (script : Nat → Except ε α) (s : Shared ε α) (t : Nat) :
    Move script s t (s.next script t) (s.caller t) (s.settled script t) := by
  unfold next step? caller settled
  cases hst : s.stages[t]? with
  | none => exact .idle
  | some stage =>
      cases stage with
      | asking =>
          cases hc : s.cell with
          | unset => exact .miss hst hc
          | set a => exact .see hst hc
      | waiting =>
          cases hl : s.holder with
          | none => exact .lock hst hl
          | some _ => exact .idle
      | checking =>
          cases hc : s.cell with
          | unset => exact .call hst hc
          | set a => exact .find hst hc
      | computing call =>
          cases hs : script call with
          | ok a => simpa [hs] using Move.succeed hst hs
          | error e => simpa [hs] using Move.fail hst hs
      | storing a => exact .store hst
      | leaving answer => exact .unlock hst
      | answered answer => exact .idle

/-! ## Stages after a move -/

theorem Move.stages_length {script : Nat → Except ε α} {s s' : Shared ε α} {t : Nat}
    {cs : List Nat} {h : List (Nat × Except ε α)} (hm : Move script s t s' cs h) :
    s'.stages.length = s.stages.length := by
  cases hm with
  | idle => rfl
  | _ => exact List.length_set

theorem stages_moveTo_self {s : Shared ε α} {t : Nat} {stage stage' : Stage ε α}
    (h : s.stages[t]? = some stage) : (s.moveTo t stage').stages[t]? = some stage' := by
  obtain ⟨hlt, -⟩ := List.getElem?_eq_some_iff.mp h
  exact List.getElem?_set_self hlt

end Shared

end HostFacts.Once
