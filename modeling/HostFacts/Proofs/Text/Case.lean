import Mathlib.Data.List.Basic
import HostFacts.Proofs.Text.CodePoint
import HostFacts.Text.Case

/-!
# Lower case is final

A text in lower case stays as it is when it is put in lower case once more
(`lower_lower`). For a single character this is in the table: no row covers what a
row makes of a character (`covers_eq_false`), so that each form is its own form. What a
sigma becomes hangs on the characters around it, but after the first time there is no
capital one left; in a text without one, each character goes by itself
(`lower_eq_flatMap`). Nor is a form ever a letter `A` to `Z`, all forms of the table
lying above these.
-/

namespace HostFacts

/-! ## Rows of the table -/

namespace Case

/-- What the row makes of the first character that it covers. -/
def Row.lowest (row : Row) : Nat := (row.first + row.offset).toNat

/-- What the row makes of the last character that it covers. -/
def Row.highest (row : Row) : Nat := (row.last + row.offset).toNat

/-- What a row makes of its characters lies below those that the other row covers, or
above them, or between them. -/
def Row.clears (row other : Row) : Bool :=
  Nat.blt row.highest other.first || Nat.blt other.last row.lowest
    || (row.step == 2 || row.first == row.last) && other.step == 2
      && (row.lowest + other.first) % 2 == 1

/-- The character `İ` as a row of its own. -/
def dottedRow : Row := ⟨0x130, 0x130, 1, 0⟩

theorem rows_clear : lowerRows.all (fun row => (dottedRow :: lowerRows).all row.clears) = true := by
  decide +kernel

theorem rows_range : ∀ row ∈ lowerRows,
    (row.first = 0x41 ∧ row.last = 0x5A ∨ 0x80 ≤ row.first)
      ∧ 0x61 ≤ row.first + row.offset ∧ row.last + row.offset < 0x110000 := by
  decide +kernel

theorem Row.covers_iff {row : Row} {n : Nat} :
    row.covers n = true ↔ row.first ≤ n ∧ n ≤ row.last ∧ (n - row.first) % row.step = 0 := by
  simp [covers, and_assoc]

theorem covers_eq_false {row other : Row} (hrow : row ∈ lowerRows)
    (hother : other ∈ dottedRow :: lowerRows) {n m : Nat} (hn : row.covers n = true)
    (hm : (m : Int) = n + row.offset) : other.covers m = false := by
  have hclears := List.all_eq_true.mp (List.all_eq_true.mp rows_clear row hrow) other hother
  simp only [Row.clears, Row.lowest, Row.highest, Bool.or_eq_true, Bool.and_eq_true, beq_iff_eq,
    Nat.blt_eq] at hclears
  obtain ⟨-, hlow, -⟩ := rows_range row hrow
  obtain ⟨hfirst, hlast, hstep⟩ := Row.covers_iff.mp hn
  refine Bool.eq_false_iff.mpr fun hcovers => ?_
  obtain ⟨hfirst', hlast', hstep'⟩ := Row.covers_iff.mp hcovers
  rcases hclears with (hbelow | habove) | ⟨⟨hone, htwo'⟩, hodd⟩
  · omega
  · omega
  · rw [htwo'] at hstep'
    rcases hone with htwo | hsingle
    · rw [htwo] at hstep
      omega
    · omega

/-! ## The mapping of single characters -/

theorem lowerCode_cases (n : Nat) :
    (lowerCode n = n ∧ ∀ row ∈ lowerRows, row.covers n = false)
      ∨ ∃ row ∈ lowerRows, row.covers n = true ∧ (lowerCode n : Int) = n + row.offset := by
  unfold lowerCode
  split
  · rename_i row hfind
    have hmem := List.mem_of_find?_eq_some hfind
    have hcovers : row.covers n = true := by simpa using List.find?_some hfind
    obtain ⟨hfirst, -, -⟩ := Row.covers_iff.mp hcovers
    obtain ⟨-, hlow, -⟩ := rows_range row hmem
    exact .inr ⟨row, hmem, hcovers, Int.toNat_of_nonneg (by omega)⟩
  · rename_i hfind
    exact .inl ⟨rfl, by simpa using List.find?_eq_none.mp hfind⟩

theorem lowerCode_of_uncovered {n : Nat} (h : ∀ row ∈ lowerRows, row.covers n = false) :
    lowerCode n = n := by
  have hfind : lowerRows.find? (·.covers n) = none := by simpa using h
  simp only [lowerCode, hfind]

theorem lowerCode_lowerCode (n : Nat) : lowerCode (lowerCode n) = lowerCode n := by
  rcases lowerCode_cases n with ⟨hn, -⟩ | ⟨row, hrow, hcovers, hoffset⟩
  · rw [hn, hn]
  · exact lowerCode_of_uncovered fun other hother =>
      covers_eq_false hrow (List.mem_cons_of_mem _ hother) hcovers hoffset

theorem lowerCode_ne_dotted {n : Nat} (h : n ≠ 0x130) : lowerCode n ≠ 0x130 := by
  rcases lowerCode_cases n with ⟨hn, -⟩ | ⟨row, hrow, hcovers, hoffset⟩
  · rwa [hn]
  · intro hdotted
    rw [hdotted] at hoffset
    exact absurd (covers_eq_false hrow (List.mem_cons_self ..) hcovers hoffset) (by decide)

/-- Of ASCII only the capitals have another form. -/
theorem lowerCode_ascii {n : Nat} (h : n < 0x80) (hn : ¬ (0x41 ≤ n ∧ n ≤ 0x5A)) :
    lowerCode n = n := by
  refine lowerCode_of_uncovered fun row hrow => Bool.eq_false_iff.mpr fun hcovers => ?_
  obtain ⟨hrange, -⟩ := rows_range row hrow
  obtain ⟨hfirst, hlast, -⟩ := Row.covers_iff.mp hcovers
  omega

theorem lowerCode_lt {n : Nat} (h : n < 0x110000) : lowerCode n < 0x110000 := by
  rcases lowerCode_cases n with ⟨hn, -⟩ | ⟨row, hrow, hcovers, hoffset⟩
  · rwa [hn]
  · obtain ⟨-, hlast, -⟩ := Row.covers_iff.mp hcovers
    obtain ⟨-, -, hhigh⟩ := rows_range row hrow
    omega

theorem lowerCode_capital {n : Nat} (h : 0x41 ≤ n ∧ n ≤ 0x5A) : lowerCode n = n + 0x20 := by
  have hcovers : (⟨0x41, 0x5A, 1, 32⟩ : Row).covers n = true :=
    Row.covers_iff.mpr ⟨h.1, h.2, Nat.mod_one _⟩
  have hfind : lowerRows.find? (·.covers n) = some ⟨0x41, 0x5A, 1, 32⟩ :=
    List.find?_cons_of_pos hcovers
  simp only [lowerCode, hfind]
  omega

theorem lowerCode_not_capital (n : Nat) : ¬ (0x41 ≤ lowerCode n ∧ lowerCode n ≤ 0x5A) := by
  rcases lowerCode_cases n with ⟨hn, huncovered⟩ | ⟨row, hrow, hcovers, hoffset⟩
  · rw [hn]
    -- the capitals have a row of their own
    rintro ⟨hA, hZ⟩
    have hcapitals := huncovered ⟨0x41, 0x5A, 1, 32⟩ (List.mem_cons_self ..)
    rw [Row.covers_iff.mpr ⟨hA, hZ, Nat.mod_one _⟩] at hcapitals
    cases hcapitals
  · obtain ⟨hfirst, -, -⟩ := Row.covers_iff.mp hcovers
    obtain ⟨-, hlow, -⟩ := rows_range row hrow
    omega

end Case

/-! ## Characters in lower case -/

namespace CodePoint

/-- The code point is its own lower-case form. -/
def IsLowered (c : CodePoint) : Prop := c.lower = [c]

instance (c : CodePoint) : Decidable c.IsLowered := inferInstanceAs (Decidable (_ = _))

theorem isLowered_iff {c : CodePoint} (h : c ≠ .scalar 'İ') :
    c.IsLowered ↔ Case.lowerCode c.code = c.code := by
  rw [IsLowered, lower, if_neg h, List.cons.injEq]
  constructor
  · rintro ⟨hform, -⟩
    rw [← code_ofCode (Case.lowerCode_lt c.code_lt), hform]
  · intro hcode
    rw [hcode, ofCode_code]
    exact ⟨rfl, rfl⟩

theorem isLowered_of_mem_lower {c d : CodePoint} (h : d ∈ c.lower) : d.IsLowered := by
  unfold lower at h
  split at h
  · rcases List.mem_cons.mp h with rfl | h
    · decide +kernel
    · obtain rfl := List.mem_singleton.mp h
      decide +kernel
  · rename_i hdotted
    obtain rfl := List.mem_singleton.mp h
    have hcode := code_ofCode (Case.lowerCode_lt c.code_lt)
    have hne : c.code ≠ 0x130 := fun hc => hdotted (by rw [← ofCode_code c, hc]; rfl)
    refine (isLowered_iff fun hform => Case.lowerCode_ne_dotted hne ?_).mpr ?_
    · rw [← hcode, hform]
      rfl
    · rw [hcode, Case.lowerCode_lowerCode]

theorem IsLowered.not_isCapital {c : CodePoint} (h : c.IsLowered) : c.isCapital = false := by
  have hne : c ≠ .scalar 'İ' := by
    rintro rfl
    exact absurd h (by decide +kernel)
  refine Bool.eq_false_iff.mpr fun hcapital => ?_
  rw [isLowered_iff hne] at h
  rw [isCapital_iff, ← h] at hcapital
  exact Case.lowerCode_not_capital c.code hcapital

theorem isLowered_of_ascii {c : CodePoint} (h : c.code < 0x80) (hc : c.isCapital = false) :
    c.IsLowered := by
  have hne : c ≠ .scalar 'İ' := by
    rintro rfl
    exact absurd h (by decide)
  rw [← Bool.not_eq_true, isCapital_iff] at hc
  exact (isLowered_iff hne).mpr (Case.lowerCode_ascii h hc)

end CodePoint

/-! ## Texts in lower case -/

namespace Text

theorem isLowered_of_mem_lowerAfter {before t : Text} {c : CodePoint}
    (h : c ∈ lowerAfter before t) : c.IsLowered := by
  induction t generalizing before with
  | nil => cases h
  | cons d t ih =>
      rw [lowerAfter] at h
      rcases List.mem_append.mp h with hd | ht
      · split at hd
        · obtain rfl := List.mem_singleton.mp hd
          unfold Case.lowerSigma
          split <;> decide +kernel
        · exact CodePoint.isLowered_of_mem_lower hd
      · exact ih ht

/-- All characters of a text in lower case are their own forms. -/
theorem isLowered_of_mem_lower {t : Text} {c : CodePoint} (h : c ∈ t.lower) : c.IsLowered :=
  isLowered_of_mem_lowerAfter h

theorem lowerAfter_eq_flatMap {t : Text} (h : capitalSigma ∉ t) (before : Text) :
    lowerAfter before t = t.flatMap CodePoint.lower := by
  induction t generalizing before with
  | nil => rfl
  | cons c t ih =>
      rw [List.mem_cons, not_or] at h
      rw [lowerAfter, if_neg (Ne.symm h.1), ih h.2, List.flatMap_cons]

/-- Without a capital sigma no character looks at the others. -/
theorem lower_eq_flatMap {t : Text} (h : capitalSigma ∉ t) : t.lower = t.flatMap CodePoint.lower :=
  lowerAfter_eq_flatMap h []

theorem lower_of_isLowered {t : Text} (h : ∀ c ∈ t, c.IsLowered) : t.lower = t := by
  have hsigma : capitalSigma ∉ t := fun hmem => absurd (h _ hmem) (by decide +kernel)
  rw [lower_eq_flatMap hsigma, List.flatMap_congr h, List.flatMap_singleton']

theorem lower_lower (t : Text) : t.lower.lower = t.lower :=
  lower_of_isLowered fun _ => isLowered_of_mem_lower

/-- A sigma at the end of a word, another one in front of a letter, and an `İ` that becomes two
characters. -/
example : lower "ΟΔΟΣ ΣΑΣ İ" = "οδος σας i̇" := by decide +kernel

end Text

end HostFacts
