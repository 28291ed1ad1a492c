import Mathlib.Data.Int.ConditionallyCompleteOrder
import Mathlib.Order.PiLex
import Mathlib.Order.WithBot
import HostFacts.Proofs.Version.Segments

/-!
# The order of versions

A version is an endless sequence of numbers: what its segments count, and
zeros behind them. Versions compare like these sequences, by the first place
in which they differ, although only as many places are looked at as the
longer one has segments (`compareNumbers_compares`). With the unknown version
below all sequences this gives every readable version a `rank` in a linear
order, and comparing versions is comparing ranks (`compare_eq_cmp_rank`).
-/

namespace HostFacts.Version

open Numeral

/-! ## Sequences -/

/-- The numbers, continued with zeros for ever. -/
def extend (numbers : List Int) (place : Nat) : Int := numbers.getD place 0

/-- The sequence of numbers that a version stands for. -/
def sequence (version : Text) : Nat → Int := extend ((Text.split dot version).map value)

@[simp] theorem extend_nil : extend [] = fun _ => 0 := rfl

@[simp] theorem extend_cons_zero (n : Int) (numbers : List Int) :
    extend (n :: numbers) 0 = n := rfl

@[simp] theorem extend_cons_succ (n : Int) (numbers : List Int) (place : Nat) :
    extend (n :: numbers) (place + 1) = extend numbers place := rfl

theorem sequence_apply (v : Text) (place : Nat) :
    sequence v place = ((Text.split dot v)[place]?.map value).getD 0 := by
  rw [sequence, extend, List.getD_eq_getElem?_getD, List.getElem?_map]

/-- Behind its segments a version has zeros. -/
theorem sequence_eq_zero {v : Text} {place : Nat} (h : (Text.split dot v).length ≤ place) :
    sequence v place = 0 := by
  rw [sequence_apply, List.getElem?_eq_none h]
  rfl

/-- A difference in the first place decides, and the places behind it decide
if there is none. -/
theorem compares_of_tails {s t : Nat → Int} {o : Ordering}
    (h : o.Compares (toLex fun place => s (place + 1)) (toLex fun place => t (place + 1))) :
    ((Ord.compare (s 0) (t 0)).then o).Compares (toLex s) (toLex t) := by
  have hlex : ∀ {s t : Nat → Int}, s 0 = t 0 →
      (toLex fun place => s (place + 1)) < (toLex fun place => t (place + 1)) →
      toLex s < toLex t := by
    intro s t h0 hlt
    obtain ⟨i, hbefore, hi⟩ := hlt
    refine ⟨i + 1, fun j hj => ?_, hi⟩
    cases j with
    | zero => exact h0
    | succ j => exact hbefore j (Nat.lt_of_succ_lt_succ hj)
  rcases lt_trichotomy (s 0) (t 0) with h0 | h0 | h0
  · rw [compare_lt_iff_lt.mpr h0]
    exact ⟨0, fun j hj => absurd hj (Nat.not_lt_zero j), h0⟩
  · rw [compare_eq_iff_eq.mpr h0]
    cases o with
    | lt => exact hlex h0 h
    | eq =>
        refine congrArg toLex (funext fun place => ?_)
        cases place with
        | zero => exact h0
        | succ place => exact congrFun (toLex_inj.mp h) place
    | gt => exact hlex h0.symm h
  · rw [compare_gt_iff_gt.mpr h0]
    exact ⟨0, fun j hj => absurd hj (Nat.not_lt_zero j), h0⟩

/-- Sequences that start alike compare by what is behind the start. -/
theorem compares_of_drop {s t : Nat → Int} {start : Nat} (hstart : ∀ i < start, s i = t i)
    {o : Ordering}
    (h : o.Compares (toLex fun place => s (place + start)) (toLex fun place => t (place + start))) :
    o.Compares (toLex s) (toLex t) := by
  induction start generalizing s t with
  | zero => exact h
  | succ start ih =>
      have htails :
          o.Compares (toLex fun place => s (place + 1)) (toLex fun place => t (place + 1)) :=
        ih (fun i hi => hstart (i + 1) (Nat.succ_lt_succ hi)) h
      have hcompares := compares_of_tails htails
      rwa [hstart 0 (Nat.succ_pos start), compare_eq_iff_eq.mpr rfl] at hcompares

theorem compareZeros_compares (numbers : List Int) :
    (compareZeros numbers).Compares (toLex (extend [])) (toLex (extend numbers)) := by
  induction numbers with
  | nil => rfl
  | cons n numbers ih => exact compares_of_tails (s := extend []) (t := extend (n :: numbers)) ih

theorem compareNumbers_compares (numbers others : List Int) :
    (compareNumbers numbers others).Compares (toLex (extend numbers)) (toLex (extend others)) := by
  induction numbers, others using compareNumbers.induct with
  | case1 others =>
      rw [compareNumbers]
      exact compareZeros_compares others
  | case2 n numbers ih =>
      rw [compareNumbers]
      exact compares_of_tails (s := extend (n :: numbers)) (t := extend []) ih
  | case3 n numbers m others ih =>
      rw [compareNumbers]
      exact compares_of_tails (s := extend (n :: numbers)) (t := extend (m :: others)) ih

/-! ## Ranks -/

/-- No segment of the version is over-long. -/
def Readable : Option Text → Prop
  | none => True
  | some v => ∀ t ∈ Text.split dot v, ∀ e, ¬ OverLong t e

/-- The place of a version in the order of all versions. -/
def rank : Option Text → WithBot (Lex (Nat → Int))
  | none => ⊥
  | some v => (toLex (sequence v) : Lex (Nat → Int))

theorem compares_rank_iff {v w : Text} {o : Ordering} :
    o.Compares (rank (some v)) (rank (some w)) ↔
      o.Compares (toLex (sequence v)) (toLex (sequence w)) := by
  cases o with
  | lt => exact WithBot.coe_lt_coe
  | eq => exact WithBot.coe_inj
  | gt => exact WithBot.coe_lt_coe

theorem compare_eq_cmp_rank {v w : Option Text} (hv : Readable v) (hw : Readable w) :
    compare v w = .ok (cmp (rank v) (rank w)) := by
  match v, w with
  | none, none => rw [compare, cmp_self_eq_eq]
  | none, some w =>
      have hlt : cmp (rank none) (rank (some w)) = .lt :=
        (cmp_eq_lt_iff _ _).mpr (WithBot.bot_lt_coe _)
      rw [compare, hlt]
  | some v, none =>
      have hgt : cmp (rank (some v)) (rank none) = .gt :=
        (cmp_eq_gt_iff _ _).mpr (WithBot.bot_lt_coe _)
      rw [compare, hgt]
  | some v, some w =>
      have hcmp := compares_rank_iff.mpr (compareNumbers_compares
        ((Text.split dot v).map value) ((Text.split dot w).map value))
      rw [hcmp.cmp_eq, compare, segments, segments, mapM_segment_eq_ok hv, mapM_segment_eq_ok hw]
      rfl

/-! ## Two known versions -/

theorem compare_eq_error_iff {v w : Text} {e : TooLong} :
    compare (some v) (some w) = .error e ↔
      FirstOverLong (Text.split dot v ++ Text.split dot w) e := by
  rw [← mapM_segment_eq_error_iff, List.mapM_append, compare]
  simp only [segments]
  cases (Text.split dot v).mapM segment with
  | error e' => simp [bind, Except.bind]
  | ok ns =>
      cases (Text.split dot w).mapM segment with
      | error e' => simp [bind, Except.bind]
      | ok ms => simp [bind, Except.bind, pure, Except.pure]

theorem readable_iff {v w : Text} :
    Readable (some v) ∧ Readable (some w) ↔
      ∀ e, ¬ FirstOverLong (Text.split dot v ++ Text.split dot w) e := by
  rw [← not_exists, exists_firstOverLong_iff]
  constructor
  · rintro ⟨hv, hw⟩ ⟨t, ht, e, he⟩
    rcases List.mem_append.mp ht with h | h
    · exact hv t h e he
    · exact hw t h e he
  · intro h
    exact ⟨fun t ht e he => h ⟨t, List.mem_append_left _ ht, e, he⟩,
      fun t ht e he => h ⟨t, List.mem_append_right _ ht, e, he⟩⟩

theorem compare_eq_ok_iff {v w : Text} {o : Ordering} :
    compare (some v) (some w) = .ok o ↔ (Readable (some v) ∧ Readable (some w)) ∧
      o.Compares (toLex (sequence v)) (toLex (sequence w)) := by
  constructor
  · intro h
    have hr : Readable (some v) ∧ Readable (some w) := readable_iff.mpr fun e he => by
      rw [compare_eq_error_iff.mpr he] at h
      cases h
    rw [compare_eq_cmp_rank hr.1 hr.2] at h
    obtain rfl := Except.ok.inj h
    exact ⟨hr, compares_rank_iff.mp (cmp_compares _ _)⟩
  · rintro ⟨⟨hv, hw⟩, h⟩
    rw [compare_eq_cmp_rank hv hw, (compares_rank_iff.mpr h).cmp_eq]

/-! ## A total preorder -/

variable {u v w : Option Text}

theorem compare_self (hv : Readable v) : compare v v = .ok .eq := by
  rw [compare_eq_cmp_rank hv hv, cmp_self_eq_eq]

theorem compare_swap (hv : Readable v) (hw : Readable w) :
    ∃ o, compare v w = .ok o ∧ compare w v = .ok o.swap :=
  ⟨_, compare_eq_cmp_rank hv hw, by rw [compare_eq_cmp_rank hw hv, cmp_swap]⟩

theorem compare_ne_gt_iff (hv : Readable v) (hw : Readable w) :
    compare v w ≠ .ok .gt ↔ rank v ≤ rank w := by
  rw [compare_eq_cmp_rank hv hw, Ne, Except.ok.injEq, cmp_eq_gt_iff, not_lt]

theorem compare_trans (hu : Readable u) (hv : Readable v) (hw : Readable w)
    (huv : compare u v ≠ .ok .gt) (hvw : compare v w ≠ .ok .gt) :
    compare u w ≠ .ok .gt := by
  rw [compare_ne_gt_iff hu hv] at huv
  rw [compare_ne_gt_iff hv hw] at hvw
  exact (compare_ne_gt_iff hu hw).mpr (huv.trans hvw)

theorem compare_congr (hu : Readable u) (hv : Readable v) (hw : Readable w)
    (hvw : compare v w = .ok .eq) :
    compare u v = compare u w ∧ compare v u = compare w u := by
  have hrank : rank v = rank w := by
    rw [compare_eq_cmp_rank hv hw, Except.ok.injEq, cmp_eq_eq_iff] at hvw
    exact hvw
  rw [compare_eq_cmp_rank hu hv, compare_eq_cmp_rank hu hw, compare_eq_cmp_rank hv hu,
    compare_eq_cmp_rank hw hu, hrank]
  exact ⟨rfl, rfl⟩

/-! ## Zeros at the end -/

theorem extend_append_zeros (numbers : List Int) {zeros : List Int} (h : ∀ n ∈ zeros, n = 0) :
    extend (numbers ++ zeros) = extend numbers := by
  funext place
  simp only [extend, List.getD_eq_getElem?_getD, List.getElem?_append]
  split
  · rfl
  · rename_i hlt
    rw [List.getElem?_eq_none (Nat.le_of_not_lt hlt)]
    cases hz : zeros[place - numbers.length]? with
    | none => rfl
    | some n => exact h n (List.mem_of_getElem? hz)

theorem sequence_append_zeros {v zeros : Text} (h : ∀ t ∈ Text.split dot zeros, Counts t 0) :
    sequence (v ++ dot :: zeros) = sequence v := by
  rw [sequence, Text.split_append_sep, List.map_append]
  refine extend_append_zeros _ fun n hn => ?_
  obtain ⟨t, ht, rfl⟩ := List.mem_map.mp hn
  exact (counts_iff.mp (h t ht)).symm

theorem compare_append_zeros {v zeros : Text} (hr : Readable (some (v ++ dot :: zeros)))
    (h : ∀ t ∈ Text.split dot zeros, Counts t 0) :
    compare (some (v ++ dot :: zeros)) (some v) = .ok .eq := by
  have hv : Readable (some v) := fun t ht => hr t (by
    rw [Text.split_append_sep]
    exact List.mem_append_left _ ht)
  exact compare_eq_ok_iff.mpr ⟨⟨hr, hv⟩, congrArg toLex (sequence_append_zeros h)⟩

/-! ## The headline theorem -/

/-- A comparison that puts the readable versions in a total preorder, the
versions that it finds equal being of no difference to it. -/
structure OrdersTotally (compare : Option Text → Option Text → Except TooLong Ordering) :
    Prop where
  self : ∀ v, Readable v → compare v v = .ok .eq
  swap : ∀ v w, Readable v → Readable w → ∃ o, compare v w = .ok o ∧ compare w v = .ok o.swap
  trans : ∀ u v w, Readable u → Readable v → Readable w →
    compare u v ≠ .ok .gt → compare v w ≠ .ok .gt → compare u w ≠ .ok .gt
  congr : ∀ u v w, Readable u → Readable v → Readable w → compare v w = .ok .eq →
    compare u v = compare u w ∧ compare v u = compare w u
  zeros : ∀ v zeros, Readable (some (v ++ dot :: zeros)) →
    (∀ t ∈ Text.split dot zeros, Counts t 0) →
    compare (some (v ++ dot :: zeros)) (some v) = .ok .eq

/-- **Comparing versions is the numeric order.** The segments are what stands
between the dots, and each counts as its numeral or as zero. The unknown
version is below all others, whatever these look like. Of two known versions
the first over-long segment is reported if there is one; otherwise they
compare like their sequences. -/
theorem compare_decides_numeric_order :
    (∀ v, Text.join [dot] (Text.split dot v) = v ∧ ∀ t ∈ Text.split dot v, dot ∉ t)
    ∧ (∀ t n, Counts t n ↔ n = value t)
    ∧ (compare none none = .ok .eq
      ∧ ∀ v, compare none (some v) = .ok .lt ∧ compare (some v) none = .ok .gt)
    ∧ (∀ v w, (∃ e, compare (some v) (some w) = .error e) ↔
        ∃ t ∈ Text.split dot v ++ Text.split dot w, ∃ e, OverLong t e)
    ∧ (∀ v w e, compare (some v) (some w) = .error e ↔
        FirstOverLong (Text.split dot v ++ Text.split dot w) e)
    ∧ (∀ v w o, compare (some v) (some w) = .ok o ↔
        (Readable (some v) ∧ Readable (some w))
          ∧ o.Compares (toLex (sequence v)) (toLex (sequence w)))
    ∧ OrdersTotally compare := by
  refine ⟨fun v => ⟨Text.join_split dot v, fun t => Text.sep_notMem_of_mem_split⟩,
    fun t n => counts_iff, ⟨rfl, fun v => ⟨rfl, rfl⟩⟩, fun v w => ?_,
    fun v w e => compare_eq_error_iff, fun v w o => compare_eq_ok_iff, ?_⟩
  · rw [← exists_firstOverLong_iff]
    exact exists_congr fun e => compare_eq_error_iff
  · exact {
      self := fun v => compare_self
      swap := fun v w => compare_swap
      trans := fun u v w => compare_trans
      congr := fun u v w => compare_congr
      zeros := fun v zeros => compare_append_zeros }

/-- A segment that is no numeral counts zero, a minus goes below it, and `10`
is above `9`. -/
example :
    compare (some "10.10-rc1") (some "10.0.0") = .ok .eq
      ∧ compare (some "1.-2") (some "1") = .ok .lt
      ∧ compare (some "10.10") (some "10.9.5") = .ok .gt := by
  decide

end HostFacts.Version
