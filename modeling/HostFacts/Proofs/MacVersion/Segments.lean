import Mathlib.Data.List.GetD
import HostFacts.Attempt
import HostFacts.MacVersion
import HostFacts.Proofs.Version.Order

/-!
# Segments of a macOS version

The major, minor and patch number are what the first three segments count that are not
empty; one that is missing counts zero, and what is behind them is not read. `Denotes`
says so without the reader (`ofText_eq_ok_iff`). In a version without empty segments
they are the first three numbers of its sequence (`Denotes.sequence_eq`), so that the
order of such versions is that of their major numbers, then that of the minor, then that
of the patch numbers (`precedes_of_compare`).
-/

namespace HostFacts.MacVersion

open Version Numeral

/-! ## The numbers of a version -/

/-- The segments that are not empty. -/
def filled (version : Text) : List Text := (Text.split dot version).filter (!·.isEmpty)

/-- A version with these numbers. A segment that is missing is as good as an empty one. -/
structure Denotes (version : Text) (m : MacVersion) : Prop where
  major : Counts ((filled version).getD 0 []) m.major
  minor : Counts ((filled version).getD 1 []) m.minor
  patch : Counts ((filled version).getD 2 []) m.patch
  short : ∀ t ∈ (filled version).take 3, ∀ e, ¬ OverLong t e

variable {version v w : Text} {m n : MacVersion}

theorem not_overLong_nil (e : TooLong) : ¬ OverLong [] e := by
  rintro ⟨negative, digits, hwritten, -⟩
  cases hwritten with
  | plain hne => exact hne rfl

theorem forall_take_iff {segments : List Text} :
    (∀ t ∈ segments.take 3, ∀ e, ¬ OverLong t e)
      ↔ (∀ e, ¬ OverLong (segments.getD 0 []) e) ∧ (∀ e, ¬ OverLong (segments.getD 1 []) e)
        ∧ ∀ e, ¬ OverLong (segments.getD 2 []) e := by
  match segments with
  | [] => simp [not_overLong_nil]
  | [a] => simp [not_overLong_nil]
  | [a, b] => simp [not_overLong_nil]
  | a :: b :: c :: rest => simp

theorem ofText_eq_ok_iff : ofText version = .ok m ↔ Denotes version m := by
  have hread : ofText version = .ok m
      ↔ segment ((filled version).getD 0 []) = .ok m.major
        ∧ segment ((filled version).getD 1 []) = .ok m.minor
        ∧ segment ((filled version).getD 2 []) = .ok m.patch := by
    constructor
    · intro h
      obtain ⟨major, hmajor, h⟩ := except_bind_eq_ok.mp h
      obtain ⟨minor, hminor, h⟩ := except_bind_eq_ok.mp h
      obtain ⟨patch, hpatch, h⟩ := except_bind_eq_ok.mp h
      cases h
      exact ⟨hmajor, hminor, hpatch⟩
    · rintro ⟨hmajor, hminor, hpatch⟩
      refine except_bind_eq_ok.mpr ⟨_, hmajor, except_bind_eq_ok.mpr ⟨_, hminor, ?_⟩⟩
      exact except_bind_eq_ok.mpr ⟨_, hpatch, rfl⟩
  simp only [hread, segment_eq_ok_iff, ← counts_iff]
  constructor
  · rintro ⟨⟨hmajor, hcmajor⟩, ⟨hminor, hcminor⟩, hpatch, hcpatch⟩
    exact ⟨hcmajor, hcminor, hcpatch, forall_take_iff.mpr ⟨hmajor, hminor, hpatch⟩⟩
  · rintro ⟨hcmajor, hcminor, hcpatch, hshort⟩
    obtain ⟨hmajor, hminor, hpatch⟩ := forall_take_iff.mp hshort
    exact ⟨⟨hmajor, hcmajor⟩, ⟨hminor, hcminor⟩, hpatch, hcpatch⟩

/-! ## Versions without empty segments -/

def NoGaps (version : Text) : Prop := ∀ t ∈ Text.split dot version, t ≠ []

instance (version : Text) : Decidable (NoGaps version) :=
  inferInstanceAs (Decidable (∀ t ∈ Text.split dot version, t ≠ []))

theorem NoGaps.filled_eq (h : NoGaps version) : filled version = Text.split dot version := by
  refine List.filter_eq_self.mpr fun t ht => ?_
  simpa using h t ht

/-- The numbers of a version without empty segments stand at the start of its sequence. -/
theorem Denotes.sequence_eq (h : Denotes version m) (hgaps : NoGaps version) :
    sequence version 0 = m.major ∧ sequence version 1 = m.minor
      ∧ sequence version 2 = m.patch := by
  have hplace (place : Nat) :
      sequence version place = value ((filled version).getD place []) := by
    rw [hgaps.filled_eq]
    exact List.getD_map _ [] value
  rw [hplace, hplace, hplace]
  exact ⟨(counts_iff.mp h.major).symm, (counts_iff.mp h.minor).symm, (counts_iff.mp h.patch).symm⟩

/-! ## Order -/

/-- The first of the numbers that differs is the smaller one, or none differs. -/
def Precedes (m n : MacVersion) : Prop :=
  m.major < n.major ∨ m.major = n.major
    ∧ (m.minor < n.minor ∨ m.minor = n.minor ∧ m.patch ≤ n.patch)

theorem precedes_of_compare (hv : Denotes v m) (hw : Denotes w n) (hgv : NoGaps v)
    (hgw : NoGaps w) {o : Ordering} (h : compare (some v) (some w) = .ok o) (ho : o ≠ .gt) :
    Precedes m n := by
  obtain ⟨-, hcompares⟩ := compare_eq_ok_iff.mp h
  obtain ⟨hv0, hv1, hv2⟩ := hv.sequence_eq hgv
  obtain ⟨hw0, hw1, hw2⟩ := hw.sequence_eq hgw
  rw [Precedes, ← hv0, ← hv1, ← hv2, ← hw0, ← hw1, ← hw2]
  cases o with
  | gt => exact absurd rfl ho
  | eq =>
      have heq : sequence v = sequence w := toLex_inj.mp hcompares
      rw [heq]
      exact .inr ⟨rfl, .inr ⟨rfl, le_rfl⟩⟩
  | lt =>
      obtain ⟨place, hbefore, hlt⟩ := hcompares
      -- the place of the difference is one of the three, or behind them
      match place with
      | 0 => exact .inl hlt
      | 1 => exact .inr ⟨hbefore 0 (by decide), .inl hlt⟩
      | 2 => exact .inr ⟨hbefore 0 (by decide), .inr ⟨hbefore 1 (by decide), hlt.le⟩⟩
      | place + 3 =>
          exact .inr ⟨hbefore 0 (by omega), .inr ⟨hbefore 1 (by omega), (hbefore 2 (by omega)).le⟩⟩

end HostFacts.MacVersion
