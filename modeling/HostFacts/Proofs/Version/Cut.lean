import HostFacts.Proofs.Version.Reaching

/-!
# Versions that are cut short

A version may be cut behind some of its segments, and what is left stands for the same
numbers with zeros behind them (`sequence_upTo`). A version of no more segments cannot
tell the two apart, if nothing that was cut off counts below zero: where it differs from
one of them, it differs in the segments that they share (`le_iff_le_of_agree`). So the
gates that ask for a version of few segments may be asked with the rest cut off
(`atLeast_upTo`). That nothing counts below zero is there for one thing alone: a version
has to reach what is left of it (`atLeast_upTo_self`), and a gate tells the two apart if
it does not (`atLeast_upTo_iff`).
-/

namespace HostFacts.Version

open Numeral

/-- The version of the first segments. -/
def upTo (places : Nat) (v : Text) : Text := Text.join [dot] ((Text.split dot v).take places)

variable {places : Nat} {v q : Text}

/-! ## Sequences that start alike -/

/-- Two sequences start alike, and behind the start the lower one is like a third. Then the third
is at or below both of them or below none. -/
theorem le_iff_le_of_agree {s t q : Nat → Int} (hstart : ∀ i < places, t i = s i)
    (hrest : ∀ i, places ≤ i → t i = q i) (hle : toLex t ≤ toLex s) :
    toLex q ≤ toLex t ↔ toLex q ≤ toLex s := by
  refine ⟨fun h => h.trans hle, fun h => le_of_not_gt fun ⟨i, hbefore, hi⟩ => h.not_gt ?_⟩
  have hplace : i < places := Nat.lt_of_not_le fun hge => hi.ne (hrest i hge)
  refine ⟨i, fun j hj => ?_, ?_⟩
  · exact (hstart j (hj.trans hplace)).symm.trans (hbefore j hj)
  · exact (hstart i hplace).symm.trans_lt hi

/-! ## What is left of a version -/

theorem split_upTo (h : 0 < places) (v : Text) :
    Text.split dot (upTo places v) = (Text.split dot v).take places := by
  refine Text.split_join ?_ fun t ht => Text.sep_notMem_of_mem_split (List.mem_of_mem_take ht)
  rw [Ne, List.take_eq_nil_iff, not_or]
  exact ⟨h.ne', Text.split_ne_nil dot v⟩

theorem readable_upTo (h : 0 < places) (hv : Readable (some v)) :
    Readable (some (upTo places v)) := by
  intro t ht
  rw [split_upTo h] at ht
  exact hv t (List.mem_of_mem_take ht)

theorem sequence_upTo (h : 0 < places) (v : Text) (place : Nat) :
    sequence (upTo places v) place = if place < places then sequence v place else 0 := by
  split
  · rename_i hlt
    rw [sequence_apply, sequence_apply, split_upTo h, List.getElem?_take_of_lt hlt]
  · rename_i hge
    refine sequence_eq_zero ?_
    rw [split_upTo h]
    exact (List.length_take_le ..).trans (Nat.le_of_not_lt hge)

/-- What is left is not above the version, if the segments that were cut off are not below zero. -/
theorem sequence_upTo_le (h : 0 < places)
    (hrest : ∀ t ∈ (Text.split dot v).drop places, ∀ n, Counts t n → 0 ≤ n) :
    sequence (upTo places v) ≤ sequence v := by
  intro place
  rw [sequence_upTo h]
  split
  · exact le_refl _
  · rename_i hge
    rw [sequence_apply]
    cases hsegment : (Text.split dot v)[place]? with
    | none => exact le_refl _
    | some t =>
        have hmem : t ∈ (Text.split dot v).drop places := by
          refine List.mem_of_getElem? (i := place - places) ?_
          rw [List.getElem?_drop, Nat.add_sub_cancel' (Nat.le_of_not_lt hge), hsegment]
        exact hrest t hmem _ (counts_iff.mpr rfl)

/-! ## Gates -/

theorem atLeast_upTo_self (h : 0 < places) (hv : Readable (some v))
    (hrest : ∀ t ∈ (Text.split dot v).drop places, ∀ n, Counts t n → 0 ≤ n) :
    atLeast (some v) (some (upTo places v)) = .ok true :=
  atLeast_eq_ok_iff.mpr
    ⟨⟨hv, readable_upTo h hv⟩, iff_of_true rfl (Pi.toLex_monotone (sequence_upTo_le h hrest))⟩

/-- A gate of few segments opens alike to a version and to what is left of it. -/
theorem atLeast_upTo (h : 0 < places) (hself : atLeast (some v) (some (upTo places v)) = .ok true)
    (hq : Readable (some q)) (hshort : (Text.split dot q).length ≤ places) :
    atLeast (some (upTo places v)) (some q) = atLeast (some v) (some q) := by
  obtain ⟨⟨hv, hcut⟩, hle⟩ := atLeast_eq_ok_iff.mp hself
  have hstart : ∀ i < places, sequence (upTo places v) i = sequence v i := fun i hi => by
    rw [sequence_upTo h, if_pos hi]
  have hrest : ∀ i, places ≤ i → sequence (upTo places v) i = sequence q i := fun i hi => by
    rw [sequence_upTo h, if_neg (Nat.not_lt_of_le hi), sequence_eq_zero (hshort.trans hi)]
  have hreaches : rank (some q) ≤ rank (some (upTo places v)) ↔ rank (some q) ≤ rank (some v) := by
    rw [rank_le_rank_iff, rank_le_rank_iff]
    exact le_iff_le_of_agree hstart hrest (hle.mp rfl)
  rw [atLeast_eq_decide hcut hq, atLeast_eq_decide hv hq, decide_eq_decide.mpr hreaches]

/-- A version may be cut if it reaches what is left of it, and only then. -/
theorem atLeast_upTo_iff (h : 0 < places) (hv : Readable (some v)) :
    (∀ q, Readable (some q) → (Text.split dot q).length ≤ places →
        atLeast (some (upTo places v)) (some q) = atLeast (some v) (some q))
      ↔ atLeast (some v) (some (upTo places v)) = .ok true := by
  refine ⟨fun hall => ?_, fun hself q => atLeast_upTo h hself⟩
  have hcut := readable_upTo h hv
  have hlength : (Text.split dot (upTo places v)).length ≤ places := by
    rw [split_upTo h]
    exact List.length_take_le ..
  rw [← hall _ hcut hlength, atLeast_eq_decide hcut hcut, decide_eq_true (le_refl _)]

/-- A build that counts below zero is lost, and with it that the version is below `6.1`. -/
example :
    upTo 2 "6.1.7601.23403" = "6.1"
      ∧ atLeast (some "6.1.7601.23403") (some "6.1") = .ok true
      ∧ upTo 2 "6.1.-1" = "6.1"
      ∧ atLeast (some "6.1.-1") (some "6.1") = .ok false := by
  decide

end HostFacts.Version
