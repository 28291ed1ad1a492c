import HostFacts.Proofs.Version.Order

/-!
# Versions that are reached

A version reaches another if it is not below it in the numeric order. That is all
there is to a gate (`atLeast_eq_ok_iff`), unless one of the two versions has a
segment that is over-long (`atLeast_eq_error_iff`). Since the order is one of ranks,
whatever reaches a version reaches all that are below it (`atLeast_of_compare`).
-/

namespace HostFacts.Version

open Numeral

theorem atLeast_eq_decide {v w : Option Text} (hv : Readable v) (hw : Readable w) :
    atLeast v w = .ok (decide (rank w ≤ rank v)) := by
  rw [atLeast, compare_eq_cmp_rank hv hw]
  show Except.ok (cmp (rank v) (rank w) != .lt) = _
  rw [Except.ok.injEq, Bool.eq_iff_iff, bne_iff_ne, Ne, cmp_eq_lt_iff, not_lt, decide_eq_true_eq]

theorem rank_le_rank_iff {v w : Text} :
    rank (some v) ≤ rank (some w) ↔ toLex (sequence v) ≤ toLex (sequence w) :=
  WithBot.coe_le_coe

/-- A gate fails as the comparison does. -/
theorem atLeast_eq_error_iff {v w : Text} {e : TooLong} :
    atLeast (some v) (some w) = .error e
      ↔ FirstOverLong (Text.split dot v ++ Text.split dot w) e := by
  rw [← compare_eq_error_iff, atLeast]
  cases compare (some v) (some w) with
  | error e' => simp [Except.map]
  | ok o => simp [Except.map]

/-- A gate answers whether the version is at or above the other in the numeric order. -/
theorem atLeast_eq_ok_iff {v w : Text} {b : Bool} :
    atLeast (some v) (some w) = .ok b ↔ (Readable (some v) ∧ Readable (some w))
      ∧ (b = true ↔ toLex (sequence w) ≤ toLex (sequence v)) := by
  constructor
  · intro h
    have hr : Readable (some v) ∧ Readable (some w) := by
      refine readable_iff.mpr fun e he => ?_
      rw [atLeast_eq_error_iff.mpr he] at h
      cases h
    rw [atLeast_eq_decide hr.1 hr.2] at h
    obtain rfl := Except.ok.inj h
    exact ⟨hr, by rw [decide_eq_true_eq, rank_le_rank_iff]⟩
  · rintro ⟨⟨hv, hw⟩, hb⟩
    rw [← rank_le_rank_iff] at hb
    rw [atLeast_eq_decide hv hw, Except.ok.injEq, Bool.eq_iff_iff, decide_eq_true_eq, hb]

/-! ## Below and above -/

variable {u v w : Option Text}

/-- What reaches a version reaches those that are not above it. -/
theorem atLeast_of_compare (hu : Readable u) (hv : Readable v) (hw : Readable w)
    (hvw : compare v w ≠ .ok .gt) (h : atLeast u w = .ok true) : atLeast u v = .ok true := by
  rw [compare_ne_gt_iff hv hw] at hvw
  rw [atLeast_eq_decide hu hw, Except.ok.injEq, decide_eq_true_eq] at h
  rw [atLeast_eq_decide hu hv, decide_eq_true (hvw.trans h)]

/-! ## Versions that cannot be read -/

theorem FirstOverLong.append {pieces : List Text} {e : TooLong} (h : FirstOverLong pieces e)
    (others : List Text) : FirstOverLong (pieces ++ others) e := by
  induction h with
  | here hlong => exact .here hlong
  | later hshort _ ih => exact .later hshort ih

theorem firstOverLong_append_iff {pieces others : List Text} {e : TooLong}
    (h : ∀ t ∈ others, ∀ e, ¬ OverLong t e) :
    FirstOverLong (pieces ++ others) e ↔ FirstOverLong pieces e := by
  refine ⟨fun hfirst => ?_, fun hfirst => hfirst.append others⟩
  induction pieces with
  | nil =>
      obtain ⟨t, ht, e', he'⟩ := exists_firstOverLong_iff.mp ⟨e, hfirst⟩
      exact absurd he' (h t ht e')
  | cons t pieces ih =>
      cases hfirst with
      | here hlong => exact .here hlong
      | later hshort hrest => exact .later hshort (ih hrest)

theorem FirstOverLong.unique {pieces : List Text} {e e' : TooLong}
    (h : FirstOverLong pieces e) (h' : FirstOverLong pieces e') : e = e' := by
  rw [← mapM_segment_eq_error_iff] at h h'
  exact Except.error.inj (h.symm.trans h')

/-- A numeral that is too long is reported before the other version is looked at. -/
theorem atLeast_of_firstOverLong {v : Text} {e : TooLong}
    (h : FirstOverLong (Text.split dot v) e) (w : Text) : atLeast (some v) (some w) = .error e :=
  atLeast_eq_error_iff.mpr (h.append _)

theorem firstOverLong_of_not_readable {v : Text} (h : ¬ Readable (some v)) :
    ∃ e, FirstOverLong (Text.split dot v) e := by
  rw [exists_firstOverLong_iff]
  simpa [Readable] using h

end HostFacts.Version
