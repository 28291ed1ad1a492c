import Mathlib.Data.List.Induction
import Mathlib.Data.Nat.Digits.Defs
import HostFacts.Version

/-!
# What segments count

A segment of a version counts as the number that it writes, or as zero if it
writes none. `Counts` says so without the reader: a numeral is at most one
sign and one or more digits (`Written`), and its digits are places of ten.
`segment` computes just that number (`segment_eq_ok_iff`) unless the numeral
has too many digits (`segment_eq_error_iff`), and a run of segments stops at
the first one that does (`mapM_segment_eq_error_iff`).
-/

namespace HostFacts

/-! ## Numerals as they are written -/

namespace Numeral

/-- A text that is a numeral: its sign and its digits. -/
inductive Written : (t : Text) → (negative : Bool) → (digits : Text) → Prop
  | plain {digits : Text} (hne : digits ≠ []) (h : ∀ c ∈ digits, c.isDigit = true) :
      Written digits false digits
  | plus {digits : Text} (hne : digits ≠ []) (h : ∀ c ∈ digits, c.isDigit = true) :
      Written (.scalar '+' :: digits) false digits
  | minus {digits : Text} (hne : digits ≠ []) (h : ∀ c ∈ digits, c.isDigit = true) :
      Written (.scalar '-' :: digits) true digits

/-- The number that digits write in places of ten. -/
def placeValue (digits : Text) : Nat :=
  Nat.ofDigits 10 (digits.map CodePoint.digitValue).reverse

theorem magnitude_eq_placeValue (digits : Text) : magnitude digits = placeValue digits := by
  induction digits using List.reverseRecOn with
  | nil => rfl
  | append_singleton digits c ih =>
      simp only [magnitude, placeValue, List.foldl_append, List.foldl_cons, List.foldl_nil,
        List.map_append, List.map_cons, List.map_nil, List.reverse_append, List.reverse_cons,
        List.reverse_nil, List.nil_append, List.cons_append, Nat.ofDigits_cons] at ih ⊢
      rw [ih, Nat.add_comm]

theorem isDigits_iff {t : Text} :
    isDigits t = true ↔ t ≠ [] ∧ ∀ c ∈ t, c.isDigit = true := by
  simp [isDigits]

theorem unsigned_of_isDigit {c : CodePoint} {t : Text} (h : c.isDigit = true) :
    unsigned (c :: t) = (false, c :: t) := by
  unfold unsigned
  split
  · rename_i heq
    obtain ⟨rfl, -⟩ := List.cons.inj heq
    exact absurd h (by decide)
  · rename_i heq
    obtain ⟨rfl, -⟩ := List.cons.inj heq
    exact absurd h (by decide)
  · rfl

theorem written_iff {t digits : Text} {negative : Bool} :
    Written t negative digits ↔ unsigned t = (negative, digits) ∧ isDigits digits = true := by
  constructor
  · intro hw
    cases hw with
    | plain hne h =>
        obtain ⟨c, rest, rfl⟩ := List.exists_cons_of_ne_nil hne
        exact ⟨unsigned_of_isDigit (h c (List.mem_cons_self ..)), isDigits_iff.mpr ⟨hne, h⟩⟩
    | plus hne h => exact ⟨rfl, isDigits_iff.mpr ⟨hne, h⟩⟩
    | minus hne h => exact ⟨rfl, isDigits_iff.mpr ⟨hne, h⟩⟩
  · rintro ⟨hu, hd⟩
    obtain ⟨hne, h⟩ := isDigits_iff.mp hd
    unfold unsigned at hu
    split at hu
    · obtain ⟨rfl, rfl⟩ := Prod.mk.inj hu
      exact .minus hne h
    · obtain ⟨rfl, rfl⟩ := Prod.mk.inj hu
      exact .plus hne h
    · obtain ⟨rfl, rfl⟩ := Prod.mk.inj hu
      exact .plain hne h

end Numeral

namespace Version

open Numeral

/-! ## The number of a segment -/

/-- What a segment counts. -/
inductive Counts : (t : Text) → (n : Int) → Prop
  | positive {t digits : Text} (h : Written t false digits) : Counts t (placeValue digits)
  | negative {t digits : Text} (h : Written t true digits) : Counts t (-(placeValue digits : Int))
  | other {t : Text} (h : ∀ negative digits, ¬ Written t negative digits) : Counts t 0

/-- The number that a segment counts, however long it is. -/
def value (t : Text) : Int :=
  let (negative, digits) := unsigned t
  if !isDigits digits then 0
  else if negative then -(magnitude digits : Int)
  else magnitude digits

theorem value_of_written {t digits : Text} {negative : Bool} (h : Written t negative digits) :
    value t = if negative then -(placeValue digits : Int) else placeValue digits := by
  obtain ⟨hu, hd⟩ := written_iff.mp h
  simp [value, hu, hd, magnitude_eq_placeValue]

theorem value_of_not_written {t : Text} (h : ∀ negative digits, ¬ Written t negative digits) :
    value t = 0 := by
  have hd : isDigits (unsigned t).2 = false :=
    Bool.eq_false_iff.mpr fun hd => h _ _ (written_iff.mpr ⟨rfl, hd⟩)
  simp [value, hd]

theorem counts_iff {t : Text} {n : Int} : Counts t n ↔ n = value t := by
  constructor
  · intro h
    cases h with
    | positive h => exact (value_of_written h).symm
    | negative h => exact (value_of_written h).symm
    | other h => exact (value_of_not_written h).symm
  · rintro rfl
    by_cases hw : ∃ negative digits, Written t negative digits
    · obtain ⟨negative, digits, h⟩ := hw
      rw [value_of_written h]
      cases negative with
      | false => exact .positive h
      | true => exact .negative h
    · have h : ∀ negative digits, ¬ Written t negative digits :=
        fun negative digits h => hw ⟨negative, digits, h⟩
      rw [value_of_not_written h]
      exact .other h

/-! ## Segments that are too long -/

/-- A numeral with more digits than are read, and how many it has. -/
def OverLong (t : Text) (e : TooLong) : Prop :=
  ∃ negative digits, Written t negative digits ∧ maxDigits < digits.length ∧ e = ⟨digits.length⟩

/-- The first piece that is over-long. -/
inductive FirstOverLong : (pieces : List Text) → (e : TooLong) → Prop
  | here {t : Text} {rest : List Text} {e : TooLong} (h : OverLong t e) :
      FirstOverLong (t :: rest) e
  | later {t : Text} {rest : List Text} {e : TooLong} (h : ∀ e', ¬ OverLong t e')
      (hrest : FirstOverLong rest e) : FirstOverLong (t :: rest) e

theorem segment_eq_error_iff {t : Text} {e : TooLong} :
    segment t = .error e ↔ OverLong t e := by
  constructor
  · intro h
    simp only [segment] at h
    split at h
    · cases h
    · rename_i hd
      split at h
      · rename_i hl
        have hw : Written t (unsigned t).1 (unsigned t).2 :=
          written_iff.mpr ⟨rfl, by simpa using hd⟩
        exact ⟨_, _, hw, hl, (Except.error.inj h).symm⟩
      · split at h <;> cases h
  · rintro ⟨negative, digits, hw, hl, rfl⟩
    obtain ⟨hu, hd⟩ := written_iff.mp hw
    simp [segment, hu, hd, hl]

theorem segment_eq_ok {t : Text} (h : ∀ e, ¬ OverLong t e) : segment t = .ok (value t) := by
  cases hs : segment t with
  | error e => exact absurd (segment_eq_error_iff.mp hs) (h e)
  | ok n =>
      simp only [segment] at hs
      simp only [value]
      split at hs
      · rename_i hd
        rw [if_pos hd]
        exact hs.symm
      · rename_i hd
        rw [if_neg hd]
        split at hs
        · cases hs
        · split at hs
          · rename_i hneg
            rw [if_pos hneg]
            exact hs.symm
          · rename_i hneg
            rw [if_neg hneg]
            exact hs.symm

theorem segment_eq_ok_iff {t : Text} {n : Int} :
    segment t = .ok n ↔ (∀ e, ¬ OverLong t e) ∧ n = value t := by
  constructor
  · intro h
    have hshort : ∀ e, ¬ OverLong t e := fun e he => by
      rw [segment_eq_error_iff.mpr he] at h
      cases h
    rw [segment_eq_ok hshort] at h
    exact ⟨hshort, (Except.ok.inj h).symm⟩
  · rintro ⟨h, rfl⟩
    exact segment_eq_ok h

/-! ## Runs of segments -/

theorem mapM_segment_eq_error_iff {pieces : List Text} {e : TooLong} :
    pieces.mapM segment = .error e ↔ FirstOverLong pieces e := by
  induction pieces with
  | nil =>
      refine ⟨fun h => by simp [pure, Except.pure] at h, fun h => by cases h⟩
  | cons t rest ih =>
      rw [List.mapM_cons]
      cases hs : segment t with
      | error e' =>
          have he' := segment_eq_error_iff.mp hs
          constructor
          · intro h
            obtain rfl : e' = e := Except.error.inj h
            exact .here he'
          · intro h
            cases h with
            | here he =>
                obtain rfl := Except.error.inj (hs.symm.trans (segment_eq_error_iff.mpr he))
                rfl
            | later h => exact absurd he' (h e')
      | ok n =>
          have hshort := (segment_eq_ok_iff.mp hs).1
          constructor
          · intro h
            refine .later hshort (ih.mp ?_)
            cases hr : rest.mapM segment with
            | error e' => rw [hr] at h; exact h
            | ok ns => rw [hr] at h; cases h
          · intro h
            cases h with
            | here he => exact absurd he (hshort e)
            | later _ hrest => rw [ih.mpr hrest]; rfl

theorem mapM_segment_eq_ok {pieces : List Text} (h : ∀ t ∈ pieces, ∀ e, ¬ OverLong t e) :
    pieces.mapM segment = .ok (pieces.map value) := by
  induction pieces with
  | nil => rfl
  | cons t rest ih =>
      rw [List.mapM_cons, segment_eq_ok (h t (List.mem_cons_self ..)),
        ih fun s hs => h s (List.mem_cons_of_mem _ hs)]
      rfl

theorem exists_firstOverLong_iff {pieces : List Text} :
    (∃ e, FirstOverLong pieces e) ↔ ∃ t ∈ pieces, ∃ e, OverLong t e := by
  constructor
  · rintro ⟨e, h⟩
    induction h with
    | here h => exact ⟨_, List.mem_cons_self .., _, h⟩
    | later _ _ ih =>
        obtain ⟨t, ht, he⟩ := ih
        exact ⟨t, List.mem_cons_of_mem _ ht, he⟩
  · rintro ⟨t, ht, e, he⟩
    induction pieces with
    | nil => cases ht
    | cons s rest ih =>
        by_cases hs : ∃ e, OverLong s e
        · obtain ⟨e, hs⟩ := hs
          exact ⟨e, .here hs⟩
        · rcases List.mem_cons.mp ht with rfl | hrest
          · exact absurd ⟨e, he⟩ hs
          · obtain ⟨e', h⟩ := ih hrest
            exact ⟨e', .later (not_exists.mp hs) h⟩

end Version

end HostFacts
