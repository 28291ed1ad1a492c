import HostFacts.Attempt

/-!
# Cells

A cell is empty until its value is asked for, and holds that value for ever
after. What fails leaves it empty, so that the next one who asks tries again.
-/

namespace HostFacts

/-- A value that is computed when it is first asked for. -/
inductive Once (α : Type)
  | unset
  | set (value : α)
deriving Repr, DecidableEq

namespace Once

variable {α β ε : Type}

def map (f : α → β) : Once α → Once β
  | unset => unset
  | set a => set (f a)

def isSet : Once α → Bool
  | unset => false
  | set _ => true

/-- The value of the cell, and the cell after the question. A set cell does not look at the
computation. -/
def get (cell : Once α) (computation : Except ε α) : Except ε α × Once α :=
  match cell, computation with
  | set a, _ => (.ok a, set a)
  | unset, .ok a => (.ok a, set a)
  | unset, .error e => (.error e, unset)

/-- `get` for a computation that gives messages, which it gives only if it is run. -/
def attempt (cell : Once α) (computation : Attempt α) : Attempt α × Once α :=
  let (result, after) := cell.get computation.result
  (⟨result, if cell.isSet then [] else computation.messages⟩, after)

@[simp] theorem get_set (a : α) (computation : Except ε α) :
    (set a).get computation = (.ok a, set a) := rfl

@[simp] theorem get_unset_ok (a : α) : (unset : Once α).get (.ok a : Except ε α) = (.ok a, set a) :=
  rfl

@[simp] theorem get_unset_error (e : ε) :
    (unset : Once α).get (.error e) = (.error e, unset) := rfl

end Once

end HostFacts
