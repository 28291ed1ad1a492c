import HostFacts.Text.CodePoint

/-!
# Dictionaries

Values by name, in the order in which the names came first. Putting a value
under a name that is there already replaces the value and leaves the name in
its place.
-/

namespace HostFacts

abbrev Dictionary (α : Type) := List (Text × α)

namespace Dictionary

variable {α : Type}

def get? (d : Dictionary α) (name : Text) : Option α := d.lookup name

def put (name : Text) (value : α) : Dictionary α → Dictionary α
  | [] => [(name, value)]
  | (other, v) :: d =>
    if other = name then (name, value) :: d else (other, v) :: put name value d

/-- The pairs put one after another: the last value of a name counts. -/
def ofPairs (pairs : List (Text × α)) : Dictionary α :=
  pairs.foldl (fun d (name, value) => put name value d) []

@[simp] theorem get?_nil (name : Text) : get? ([] : Dictionary α) name = none := rfl

theorem get?_cons (key : Text) (value : α) (d : Dictionary α) (name : Text) :
    get? ((key, value) :: d) name = if name = key then some value else get? d name := by
  unfold get?
  rw [List.lookup_cons]
  by_cases h : name = key
  · simp [h]
  · simp [h, beq_false_of_ne h]

theorem get?_put (d : Dictionary α) (name other : Text) (value : α) :
    get? (put name value d) other = if other = name then some value else get? d other := by
  induction d with
  | nil => simp [put, get?_cons]
  | cons pair d ih =>
    obtain ⟨key, v⟩ := pair
    by_cases hk : key = name
    · subst hk
      by_cases h : other = key <;> simp [put, get?_cons, h]
    · rw [put, if_neg hk, get?_cons, get?_cons, ih]
      by_cases h : other = key
      · simp [h, hk]
      · simp [h]

end Dictionary

end HostFacts
