import HostFacts.Verdict

/-!
# Records and their fields

A record is accepted if all its fields are, and what is wrong with it is what
is wrong with its fields, one after another: `seq_eq_accept_iff` and
`violations_seq`. A record is not rejected for nothing if no field is
(`Proper.seq`).
-/

namespace HostFacts

namespace Verdict

variable {α β : Type}

/-- What is wrong; nothing with an accepted value. -/
def violations : Verdict α → List Violation
  | accept _ => []
  | reject faults => faults

theorem map_eq_accept_iff {f : α → β} {v : Verdict α} {b : β} :
    f <$> v = accept b ↔ ∃ a, v = accept a ∧ f a = b := by
  cases v with
  | accept a =>
      refine ⟨fun h => ⟨a, rfl, accept.inj h⟩, ?_⟩
      rintro ⟨_, ⟨⟩, rfl⟩
      rfl
  | reject faults => exact ⟨nofun, nofun⟩

theorem seq_eq_accept_iff {f : Verdict (α → β)} {v : Verdict α} {b : β} :
    f <*> v = accept b ↔ ∃ g a, f = accept g ∧ v = accept a ∧ g a = b := by
  cases f with
  | accept g =>
      cases v with
      | accept a =>
          refine ⟨fun h => ⟨g, a, rfl, rfl, accept.inj h⟩, ?_⟩
          rintro ⟨_, _, hg, ha, rfl⟩
          cases hg
          cases ha
          rfl
      | reject faults => exact ⟨nofun, nofun⟩
  | reject faults => cases v <;> exact ⟨nofun, nofun⟩

theorem under_eq_accept_iff {name : Text} {v : Verdict α} {a : α} :
    under name v = accept a ↔ v = accept a := by
  cases v with
  | accept b => rfl
  | reject faults => exact ⟨nofun, nofun⟩

@[simp] theorem violations_map (f : α → β) (v : Verdict α) :
    (f <$> v).violations = v.violations := by
  cases v <;> rfl

@[simp] theorem violations_seq (f : Verdict (α → β)) (v : Verdict α) :
    (f <*> v).violations = f.violations ++ v.violations := by
  cases f with
  | accept g => cases v <;> rfl
  | reject faults =>
      cases v with
      | accept a => exact (List.append_nil faults).symm
      | reject more => rfl

@[simp] theorem fields_under (name : Text) (v : Verdict α) :
    (under name v).violations.map Violation.field
      = (v.violations.map Violation.field).map (name :: ·) := by
  cases v with
  | accept a => rfl
  | reject faults => simp [under, violations]

/-! ## Rejections tell something -/

/-- The verdict does not reject without a reason. -/
def Proper (v : Verdict α) : Prop := v ≠ reject []

theorem Proper.map {v : Verdict α} (h : v.Proper) (f : α → β) : (f <$> v).Proper := by
  cases v with
  | accept a => exact nofun
  | reject faults => exact fun he => h (congrArg reject (reject.inj he))

theorem Proper.seq {f : Verdict (α → β)} {v : Verdict α} (hf : f.Proper) (hv : v.Proper) :
    (f <*> v).Proper := by
  cases f with
  | accept g =>
      cases v with
      | accept a => exact nofun
      | reject more => exact fun he => hv (congrArg reject (reject.inj he))
  | reject faults =>
      cases v with
      | accept a => exact fun he => hf (congrArg reject (reject.inj he))
      | reject more =>
          intro he
          exact hf (congrArg reject (List.append_eq_nil_iff.mp (reject.inj he)).1)

theorem Proper.under {v : Verdict α} (h : v.Proper) (name : Text) : (under name v).Proper := by
  cases v with
  | accept a => exact nofun
  | reject faults =>
      intro he
      exact h (congrArg reject (List.map_eq_nil_iff.mp (reject.inj he)))

end Verdict

end HostFacts
