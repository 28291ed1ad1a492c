import HostFacts.Text.CodePoint

/-!
# The numbers of code points

All are below 0x110000, and those from 0xD800 to 0xDFFF are the surrogates. A text
is well-formed if it has none of these.
-/

namespace HostFacts

namespace CodePoint

theorem code_lt (c : CodePoint) : c.code < 0x110000 := by
  cases c with
  | scalar c =>
      have hv := c.valid
      simp only [UInt32.isValidChar, Nat.isValidChar] at hv
      simp only [code, Char.toNat]
      omega
  | surrogate offset =>
      simp only [code]
      omega

theorem code_of_not_surrogate {c : CodePoint} (h : c.isSurrogate = false) :
    c.code < 0xD800 ∨ 0xE000 ≤ c.code := by
  cases c with
  | scalar c =>
      have hv := c.valid
      simp only [UInt32.isValidChar, Nat.isValidChar] at hv
      simp only [code, Char.toNat]
      omega
  | surrogate offset => cases h

theorem ofCode_surrogate {n : Nat} (h : n < 0x800) : ofCode (0xD800 + n) = .surrogate ⟨n, h⟩ := by
  have hrange : 0xD800 ≤ 0xD800 + n ∧ 0xD800 + n < 0xE000 := by omega
  simp [ofCode, hrange]

theorem code_ofCode {n : Nat} (h : n < 0x110000) : (ofCode n).code = n := by
  unfold ofCode
  split
  · simp only [code]
    omega
  · have hvalid : n.isValidChar := by
      unfold Nat.isValidChar
      omega
    have hchar : Char.ofNat n = Char.ofNatAux n hvalid := dif_pos hvalid
    rw [hchar]
    rfl

/-! ## Letters and digits of ASCII -/

theorem isCapital_iff {c : CodePoint} : c.isCapital = true ↔ 0x41 ≤ c.code ∧ c.code ≤ 0x5A := by
  cases c with
  | scalar c => exact decide_eq_true_iff
  | surrogate offset =>
      simp only [isCapital, code, Bool.false_eq_true, false_iff]
      omega

theorem isSmall_iff {c : CodePoint} : c.isSmall = true ↔ 0x61 ≤ c.code ∧ c.code ≤ 0x7A := by
  cases c with
  | scalar c =>
      exact Bool.and_eq_true_iff.trans (and_congr decide_eq_true_iff decide_eq_true_iff)
  | surrogate offset =>
      simp only [isSmall, code, Bool.false_eq_true, false_iff]
      omega

theorem isDigit_iff {c : CodePoint} : c.isDigit = true ↔ 0x30 ≤ c.code ∧ c.code ≤ 0x39 := by
  cases c with
  | scalar c => exact Char.isDigit_iff_toNat
  | surrogate offset =>
      simp only [isDigit, code, Bool.false_eq_true, false_iff]
      omega

end CodePoint

theorem Text.isWellFormed_iff {t : Text} :
    t.isWellFormed = true ↔ ∀ c ∈ t, c.isSurrogate = false := by
  simp [isWellFormed]

theorem Text.isWellFormed_of_subset {t u : Text} (h : t ⊆ u) (hu : u.isWellFormed = true) :
    t.isWellFormed = true :=
  isWellFormed_iff.mpr fun c hc => isWellFormed_iff.mp hu c (h hc)

theorem Text.isWellFormed_append {t u : Text} (ht : t.isWellFormed = true)
    (hu : u.isWellFormed = true) : (t ++ u).isWellFormed = true := by
  rw [isWellFormed, List.all_append, Bool.and_eq_true]
  exact ⟨ht, hu⟩

end HostFacts
