import Mathlib.Data.List.Basic
import HostFacts.Proofs.Version.Segments

/-!
# Numbers as they are written

A number is written in places of ten, and what is written reads as that number: a
segment that is the numeral of a number counts the number (`value_ofInt`). The numeral of
a number with few digits is not over-long, and a segment that is not over-long counts a
number with few digits (`fewDigits_value`), so that whatever was read can be written and
read again. Digits behind digits are lower places (`Digits.append`), which is how numbers
are packed into one run of digits.
-/

namespace HostFacts

namespace Numeral

/-! ## Places -/

theorem digitValue_of_isDigit {c : Char} (h : c.isDigit = true) :
    (CodePoint.scalar c).digitValue = c.toNat - '0'.toNat := if_pos h

theorem digitValue_lt (c : CodePoint) : c.digitValue < 10 := by
  cases c with
  | surrogate offset => exact Nat.zero_lt_succ 9
  | scalar c =>
      unfold CodePoint.digitValue
      dsimp only
      split
      · rename_i h
        obtain ⟨-, hle⟩ := Char.isDigit_iff_toNat.mp h
        have hzero : '0'.toNat = 48 := rfl
        have hnine : '9'.toNat = 57 := rfl
        omega
      · exact Nat.zero_lt_succ 9

theorem placeValue_append (digits lower : Text) :
    placeValue (digits ++ lower)
      = placeValue digits * 10 ^ lower.length + placeValue lower := by
  simp only [placeValue, List.map_append, List.reverse_append, Nat.ofDigits_append,
    List.length_reverse, List.length_map]
  rw [Nat.add_comm, Nat.mul_comm]

theorem placeValue_lt (digits : Text) : placeValue digits < 10 ^ digits.length := by
  have hdigits : ∀ d ∈ (digits.map CodePoint.digitValue).reverse, d < 10 := by
    intro d hd
    obtain ⟨c, -, rfl⟩ := List.mem_map.mp (List.mem_reverse.mp hd)
    exact digitValue_lt c
  have hlt := Nat.ofDigits_lt_base_pow_length (by decide) hdigits
  rwa [List.length_reverse, List.length_map] at hlt

/-! ## Natural numbers -/

theorem isDigit_of_mem_ofNat {n : Nat} {c : CodePoint} (h : c ∈ ofNat n) : c.isDigit = true := by
  obtain ⟨c, hc, rfl⟩ := List.mem_map.mp h
  exact Nat.isDigit_of_mem_toDigits (by decide) (by decide) hc

theorem ofNat_ne_nil (n : Nat) : ofNat n ≠ [] := by
  simp [ofNat, Nat.toDigits_ne_nil]

theorem length_ofNat_le_iff {n k : Nat} (hk : 0 < k) : (ofNat n).length ≤ k ↔ n < 10 ^ k := by
  rw [ofNat, List.length_map, Nat.length_toDigits_le_iff (by decide) hk]

theorem placeValue_ofNat (n : Nat) : placeValue (ofNat n) = n := by
  have hdigits : ∀ k, ∀ c ∈ Nat.toDigits 10 n,
      10 * k + (CodePoint.scalar c).digitValue = 10 * k + (c.toNat - '0'.toNat) :=
    fun k c hc => by
      rw [digitValue_of_isDigit (Nat.isDigit_of_mem_toDigits (by decide) (by decide) hc)]
  rw [← magnitude_eq_placeValue, magnitude, ofNat, List.foldl_map, List.foldl_ext _ _ _ hdigits,
    ← Nat.ofDigitChars_eq_foldl, Nat.ofDigitChars_ten_toDigits]

/-! ## Signs -/

theorem written_ofInt (i : Int) : Written (ofInt i) (decide (i < 0)) (ofNat i.natAbs) := by
  cases i with
  | ofNat n => exact .plain (ofNat_ne_nil n) fun c => isDigit_of_mem_ofNat
  | negSucc n =>
      rw [decide_eq_true (Int.negSucc_lt_zero n)]
      exact .minus (ofNat_ne_nil (n + 1)) fun c => isDigit_of_mem_ofNat

theorem dot_notMem_ofInt (i : Int) : Version.dot ∉ ofInt i := by
  have hdigits {n : Nat} : Version.dot ∉ ofNat n := fun h => by
    have hdot := isDigit_of_mem_ofNat h
    revert hdot
    decide
  cases i with
  | ofNat n => exact hdigits
  | negSucc n =>
      rw [ofInt, List.mem_cons, not_or]
      exact ⟨by decide, hdigits⟩

theorem ofInt_ne_nil (i : Int) : ofInt i ≠ [] := by
  cases i with
  | ofNat n => exact ofNat_ne_nil n
  | negSucc n => exact List.cons_ne_nil _ _

/-! ## Leading zeros -/

/-- Digits that write a number, leading zeros included. -/
structure Digits (t : Text) (i : Int) : Prop where
  isDigit : ∀ c ∈ t, c.isDigit = true
  value : (placeValue t : Int) = i

theorem Digits.append {digits lower : Text} {i j : Int} (h : Digits digits i)
    (hlower : Digits lower j) : Digits (digits ++ lower) (i * 10 ^ lower.length + j) where
  isDigit := fun c hc => (List.mem_append.mp hc).elim (h.isDigit c) (hlower.isDigit c)
  value := by
    rw [placeValue_append, ← h.value, ← hlower.value]
    norm_cast

theorem digits_ofInt {i : Int} (h : 0 ≤ i) : Digits (ofInt i) i := by
  obtain ⟨n, rfl⟩ := Int.eq_ofNat_of_zero_le h
  exact ⟨fun c => isDigit_of_mem_ofNat, congrArg Int.ofNat (placeValue_ofNat n)⟩

theorem length_ofInt_le_iff {i : Int} {k : Nat} (h : 0 ≤ i) (hk : 0 < k) :
    (ofInt i).length ≤ k ↔ i < 10 ^ k := by
  obtain ⟨n, rfl⟩ := Int.eq_ofNat_of_zero_le h
  refine (length_ofNat_le_iff hk).trans ?_
  norm_cast

/-- A zero is written before a number of one digit, and nothing before the others. -/
theorem twoPlaces_cases (i : Int) :
    (ofInt i).length = 1 ∧ twoPlaces i = ("0" : Text) ++ ofInt i
      ∨ 2 ≤ (ofInt i).length ∧ twoPlaces i = ofInt i := by
  unfold twoPlaces
  split
  · rename_i c hc
    exact .inl ⟨by rw [hc]; rfl, by rw [hc]; rfl⟩
  · rename_i hne
    refine .inr ⟨?_, rfl⟩
    match hi : ofInt i with
    | [] => exact absurd hi (ofInt_ne_nil i)
    | [c] => exact absurd hi (hne c)
    | c :: d :: rest => simp

theorem two_le_length_twoPlaces (i : Int) : 2 ≤ (twoPlaces i).length := by
  obtain ⟨hlen, h⟩ | ⟨hlen, h⟩ := twoPlaces_cases i
  · rw [h, List.length_append, hlen]
    decide
  · rwa [h]

theorem length_twoPlaces {i : Int} (h : 0 ≤ i) (hi : i ≤ 99) : (twoPlaces i).length = 2 := by
  obtain ⟨hlen, htwo⟩ | ⟨hlen, htwo⟩ := twoPlaces_cases i
  · rw [htwo, List.length_append, hlen]
    rfl
  · rw [htwo]
    have hle := (length_ofInt_le_iff (k := 2) h (by decide)).mpr (by omega)
    exact Nat.le_antisymm hle hlen

theorem digits_twoPlaces {i : Int} (h : 0 ≤ i) : Digits (twoPlaces i) i := by
  obtain ⟨-, htwo⟩ | ⟨-, htwo⟩ := twoPlaces_cases i
  · have hzero : Digits ("0" : Text) 0 := ⟨by decide, rfl⟩
    have happend := hzero.append (digits_ofInt h)
    rwa [Int.zero_mul, Int.zero_add, ← htwo] at happend
  · rw [htwo]
    exact digits_ofInt h

theorem twoPlaces_inj {i j : Int} (hi : 0 ≤ i) (hj : 0 ≤ j) (h : twoPlaces i = twoPlaces j) :
    i = j := by
  rw [← (digits_twoPlaces hi).value, h, (digits_twoPlaces hj).value]

/-! ## Reading what is written -/

/-- The number has no more digits than are read. -/
def FewDigits (i : Int) : Prop := (ofNat i.natAbs).length ≤ maxDigits

end Numeral

namespace Version

open Numeral

theorem value_ofInt (i : Int) : value (ofInt i) = i := by
  rw [value_of_written (written_ofInt i), placeValue_ofNat]
  split
  · rename_i h
    rw [decide_eq_true_eq] at h
    omega
  · rename_i h
    rw [decide_eq_true_eq] at h
    omega

theorem not_overLong_ofInt {i : Int} (h : FewDigits i) (e : TooLong) : ¬ OverLong (ofInt i) e := by
  rintro ⟨negative, digits, hwritten, hlong, -⟩
  obtain ⟨hunsigned, -⟩ := written_iff.mp hwritten
  obtain ⟨hunsigned', -⟩ := written_iff.mp (written_ofInt i)
  obtain ⟨-, rfl⟩ := Prod.mk.inj (hunsigned.symm.trans hunsigned')
  exact Nat.not_le_of_lt hlong h

theorem fewDigits_value {t : Text} (h : ∀ e, ¬ OverLong t e) : FewDigits (value t) := by
  have hpos : 0 < maxDigits := by decide
  rw [FewDigits, length_ofNat_le_iff hpos]
  by_cases hw : ∃ negative digits, Written t negative digits
  · obtain ⟨negative, digits, hw⟩ := hw
    have hshort : digits.length ≤ maxDigits :=
      Nat.le_of_not_lt fun hlong => h _ ⟨negative, digits, hw, hlong, rfl⟩
    have habs : (value t).natAbs = placeValue digits := by
      rw [value_of_written hw]
      split
      · rw [Int.natAbs_neg, Int.natAbs_natCast]
      · rw [Int.natAbs_natCast]
    rw [habs]
    exact (placeValue_lt digits).trans_le (Nat.pow_le_pow_right (by decide) hshort)
  · rw [value_of_not_written fun negative digits hw' => hw ⟨negative, digits, hw'⟩]
    exact Nat.pow_pos (by decide)

end Version

end HostFacts
