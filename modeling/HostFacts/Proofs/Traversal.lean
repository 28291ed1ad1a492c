import Mathlib.Data.List.Forall2
import HostFacts.Attempt

/-!
# One item after another

Items are gone through in their order, and the first one that fails ends it. So the whole
succeeds just if all items do (`mapM_eq_ok_iff`), and it fails as one of them does
(`mapM_of_not_ok`, `exists_of_mapM_eq_error`).
-/

namespace HostFacts

variable {ε α β : Type}

theorem mapM_of_ok {f : α → Except ε β} {value : α → β} {as : List α}
    (h : ∀ a ∈ as, f a = .ok (value a)) : as.mapM f = .ok (as.map value) := by
  induction as with
  | nil => rfl
  | cons a as ih =>
      obtain ⟨ha, has⟩ := List.forall_mem_cons.mp h
      rw [List.mapM_cons, ha, ih has]
      rfl

/-- The first of the items that fails makes the whole fail. -/
theorem mapM_of_not_ok {f : α → Except ε β} {as : List α}
    (h : ∃ a ∈ as, ¬ ∃ b, f a = .ok b) :
    ∃ before a after e, as = before ++ a :: after ∧ (∀ a' ∈ before, ∃ b, f a' = .ok b)
      ∧ f a = .error e ∧ as.mapM f = .error e := by
  induction as with
  | nil =>
      obtain ⟨a, ha, -⟩ := h
      cases ha
  | cons first as ih =>
      rw [List.mapM_cons]
      cases hfirst : f first with
      | error e => exact ⟨[], first, as, e, rfl, nofun, hfirst, rfl⟩
      | ok b =>
          obtain ⟨a, ha, hnot⟩ := h
          have hne : a ≠ first := by
            rintro rfl
            exact hnot ⟨b, hfirst⟩
          obtain ⟨before, a, after, e, rfl, hbefore, hfails, hall⟩ :=
            ih ⟨a, (List.mem_cons.mp ha).resolve_left hne, hnot⟩
          refine ⟨first :: before, a, after, e, rfl, ?_, hfails, ?_⟩
          · exact List.forall_mem_cons.mpr ⟨⟨b, hfirst⟩, hbefore⟩
          · rw [hall]
            rfl

theorem mapM_eq_ok_iff {f : α → Except ε β} {as : List α} {bs : List β} :
    as.mapM f = .ok bs ↔ List.Forall₂ (fun a b => f a = .ok b) as bs := by
  induction as generalizing bs with
  | nil => cases bs <;> simp [pure, Except.pure]
  | cons a as ih =>
      rw [List.mapM_cons, except_bind_eq_ok]
      constructor
      · rintro ⟨b, ha, h⟩
        obtain ⟨rest, hrest, h⟩ := except_bind_eq_ok.mp h
        cases h
        exact .cons ha (ih.mp hrest)
      · intro h
        cases h with
        | cons ha hrest => exact ⟨_, ha, by rw [ih.mpr hrest]; rfl⟩

theorem exists_of_mapM_eq_error {f : α → Except ε β} {as : List α} {e : ε}
    (h : as.mapM f = .error e) : ∃ a ∈ as, f a = .error e := by
  induction as with
  | nil => cases h
  | cons a as ih =>
      rw [List.mapM_cons] at h
      cases ha : f a with
      | error e' =>
          rw [ha] at h
          cases h
          exact ⟨a, List.mem_cons_self .., ha⟩
      | ok b =>
          cases hrest : as.mapM f with
          | ok bs =>
              rw [ha, hrest] at h
              cases h
          | error e' =>
              rw [ha, hrest] at h
              cases h
              obtain ⟨a', ha', hfails⟩ := ih hrest
              exact ⟨a', List.mem_cons_of_mem _ ha', hfails⟩

theorem toOption_mapM (f : α → Except ε β) (as : List α) :
    (as.mapM f).toOption = as.mapM fun a => (f a).toOption := by
  induction as with
  | nil => rfl
  | cons a as ih =>
      rw [List.mapM_cons, List.mapM_cons, ← ih]
      cases f a with
      | error e => rfl
      | ok b => cases as.mapM f <;> rfl

theorem mapM_eq_none_iff {f : α → Option β} {as : List α} :
    as.mapM f = none ↔ ∃ a ∈ as, f a = none := by
  induction as with
  | nil => exact ⟨nofun, fun ⟨_, hmem, _⟩ => absurd hmem List.not_mem_nil⟩
  | cons a as ih =>
      rw [List.mapM_cons, List.exists_mem_cons_iff, ← ih]
      cases f a with
      | none => simp
      | some b => cases as.mapM f <;> simp

end HostFacts
