import HostFacts.Once

/-!
# Threads at a cell

Several threads may ask a cell for its value at the same time. Each looks
first and takes no lock if it finds the value. Otherwise it waits for the
lock and looks again, because another thread may have been faster; only then
does it run the computation, stores the value and gives the lock back, also
when the computation fails.

A step of one thread is atomic. A schedule names the threads in the order of
their turns, and a thread that cannot move lets its turn pass.
-/

namespace HostFacts.Once

/-- How far a thread is with its question. -/
inductive Stage (ε α : Type)
  /-- Has not looked yet. -/
  | asking
  /-- Has seen the empty cell and wants the lock. -/
  | waiting
  /-- Has the lock and is to look again. -/
  | checking
  /-- Runs the computation for the time of this number, counted from zero. -/
  | computing (call : Nat)
  /-- Has the value and is to store it. -/
  | storing (value : α)
  /-- Knows its answer and is to give the lock back. -/
  | leaving (answer : Except ε α)
  | answered (answer : Except ε α)
deriving Repr

/-- A cell with its lock, and the threads that ask for its value. -/
structure Shared (ε α : Type) where
  cell : Once α
  /-- The thread that has the lock. -/
  holder : Option Nat := none
  /-- How often the computation was run. -/
  calls : Nat
  stages : List (Stage ε α)
deriving Repr

namespace Shared

variable {ε α : Type}

/-- Threads that are about to ask. -/
def start (cell : Once α) (calls threads : Nat) : Shared ε α :=
  { cell, calls, stages := List.replicate threads .asking }

def moveTo (s : Shared ε α) (thread : Nat) (stage : Stage ε α) : Shared ε α :=
  { s with stages := s.stages.set thread stage }

/-- One step of a thread, where `script` tells what the computation comes to each time. A thread
that waits for the lock cannot move while another has it, and one that has its answer is done. -/
def step? (script : Nat → Except ε α) (s : Shared ε α) (thread : Nat) : Option (Shared ε α) :=
  match s.stages[thread]? with
  | some .asking =>
    match s.cell with
    | .set a => some (s.moveTo thread (.answered (.ok a)))
    | .unset => some (s.moveTo thread .waiting)
  | some .waiting =>
    match s.holder with
    | some _ => none
    | none => some { s.moveTo thread .checking with holder := some thread }
  | some .checking =>
    match s.cell with
    | .set a => some (s.moveTo thread (.leaving (.ok a)))
    | .unset => some { s.moveTo thread (.computing s.calls) with calls := s.calls + 1 }
  | some (.computing call) =>
    match script call with
    | .ok a => some (s.moveTo thread (.storing a))
    | .error e => some (s.moveTo thread (.leaving (.error e)))
  | some (.storing a) => some { s.moveTo thread (.leaving (.ok a)) with cell := .set a }
  | some (.leaving answer) => some { s.moveTo thread (.answered answer) with holder := none }
  | some (.answered _) | none => none

/-- Follows a schedule. -/
def run (script : Nat → Except ε α) (s : Shared ε α) (schedule : List Nat) : Shared ε α :=
  schedule.foldl (fun s thread => (s.step? script thread).getD s) s

/-- The answers that are there, by the number of the thread. -/
def answers (s : Shared ε α) : List (Except ε α) :=
  s.stages.filterMap fun
    | .answered answer => some answer
    | _ => none

/-- All threads by turns, often enough for each to get its answer. -/
def takingTurns (threads : Nat) : List Nat :=
  (List.replicate (6 * threads) (List.range threads)).flatten

end Shared

end HostFacts.Once
