import Mathlib.Data.List.Basic
import HostFacts.Json.Token

/-!
# Where a number ends

A number ends in front of the first character that no number goes on with.
What stands there and behind does not matter to it (`numberParts?_append`),
and it takes up at least one character and no more than there are
(`numberParts?_eq_some`).
-/

namespace HostFacts

namespace Json

/-- A character that a number may go on with. -/
def continuesNumber (c : CodePoint) : Bool :=
  c.isDigit || c = .scalar '.' || c = .scalar 'e' || c = .scalar 'E' || c = .scalar '+' ||
    c = .scalar '-'

/-- The text is over, or its first character belongs to no number. -/
def EndsNumber (t : Text) : Prop := ∀ c ∈ t.head?, continuesNumber c = false

theorem EndsNumber.nil : EndsNumber [] := nofun

theorem EndsNumber.cons {c : CodePoint} (h : continuesNumber c = false) (t : Text) :
    EndsNumber (c :: t) := by
  rintro _ ⟨⟩
  exact h

theorem endsNumber_cons {c : CodePoint} {t : Text} (h : EndsNumber (c :: t)) :
    c.isDigit = false ∧ c ≠ .scalar '.' ∧ c ≠ .scalar 'e' ∧ c ≠ .scalar 'E' ∧ c ≠ .scalar '+'
      ∧ c ≠ .scalar '-' := by
  simpa [continuesNumber, and_assoc] using h c rfl

variable {t : Text}

theorem takeWhile_isDigit_append (h : EndsNumber t) (w : Text) :
    (w ++ t).takeWhile CodePoint.isDigit = w.takeWhile CodePoint.isDigit := by
  induction w with
  | nil =>
      cases t with
      | nil => rfl
      | cons c t => exact List.takeWhile_cons_of_neg (by simp [(endsNumber_cons h).1])
  | cons c w ih => rw [List.cons_append, List.takeWhile_cons, List.takeWhile_cons, ih]

/-! ## The parts -/

theorem wholePart?_append (h : EndsNumber t) (w : Text) : wholePart? (w ++ t) = wholePart? w := by
  cases w with
  | nil =>
      cases t with
      | nil => rfl
      | cons c t =>
          have hc := (endsNumber_cons h).1
          have hzero : c ≠ .scalar '0' := by
            rintro rfl
            cases hc
          simp [wholePart?, hc]
  | cons c w =>
      have htake := takeWhile_isDigit_append h (c :: w)
      rw [List.cons_append] at htake ⊢
      by_cases hzero : c = .scalar '0'
      · subst hzero
        rfl
      · simp only [wholePart?, htake]

theorem wholePart?_eq_some {w whole : Text} (h : wholePart? w = some whole) :
    whole ≠ [] ∧ whole <+: w ∧ ∀ c ∈ w.head?, c.isDigit = true := by
  unfold wholePart? at h
  split at h
  · obtain rfl := Option.some.inj h
    refine ⟨by simp, ⟨_, rfl⟩, ?_⟩
    rintro _ ⟨⟩
    rfl
  · rename_i c w _
    split at h
    · rename_i hc
      obtain rfl := Option.some.inj h
      refine ⟨by simp [hc], List.takeWhile_prefix _, ?_⟩
      rintro _ ⟨⟩
      exact hc
    · cases h
  · cases h

theorem fractionPart?_of_ne {c : CodePoint} (hc : c ≠ .scalar '.') (t : Text) :
    fractionPart? (c :: t) = none := by
  unfold fractionPart?
  split
  · rename_i heq
    exact absurd (List.cons.inj heq).1 hc
  · rfl

theorem fractionPart?_append (h : EndsNumber t) (w : Text) :
    fractionPart? (w ++ t) = fractionPart? w := by
  cases w with
  | nil =>
      cases t with
      | nil => rfl
      | cons c t => exact fractionPart?_of_ne (endsNumber_cons h).2.1 t
  | cons c w =>
      by_cases hpoint : c = .scalar '.'
      · subst hpoint
        simp only [fractionPart?, List.cons_append, takeWhile_isDigit_append h]
      · rw [List.cons_append, fractionPart?_of_ne hpoint, fractionPart?_of_ne hpoint]

def fractionWidth : Option Text → Nat
  | some digits => digits.length + 1
  | none => 0

theorem fractionWidth_le (w : Text) : fractionWidth (fractionPart? w) ≤ w.length := by
  unfold fractionPart?
  split
  · rename_i t
    simp only
    split
    · exact Nat.zero_le _
    · exact Nat.succ_le_succ (List.takeWhile_sublist _).length_le
  · exact Nat.zero_le _

theorem unsigned_of_ne {c : CodePoint} (hminus : c ≠ .scalar '-') (hplus : c ≠ .scalar '+')
    (t : Text) : Numeral.unsigned (c :: t) = (false, c :: t) := by
  unfold Numeral.unsigned
  split
  · rename_i heq
    exact absurd (List.cons.inj heq).1 hminus
  · rename_i heq
    exact absurd (List.cons.inj heq).1 hplus
  · rfl

theorem unsigned_append (h : EndsNumber t) (w : Text) :
    Numeral.unsigned (w ++ t) = ((Numeral.unsigned w).1, (Numeral.unsigned w).2 ++ t) := by
  cases w with
  | nil =>
      cases t with
      | nil => rfl
      | cons c t =>
          obtain ⟨-, -, -, -, hplus, hminus⟩ := endsNumber_cons h
          exact unsigned_of_ne hminus hplus t
  | cons c w =>
      by_cases hminus : c = .scalar '-'
      · subst hminus
        rfl
      · by_cases hplus : c = .scalar '+'
        · subst hplus
          rfl
        · rw [List.cons_append, unsigned_of_ne hminus hplus, unsigned_of_ne hminus hplus]
          rfl

theorem length_unsigned_le (t : Text) : (Numeral.unsigned t).2.length ≤ t.length := by
  unfold Numeral.unsigned
  split <;> simp

theorem exponentPart?_append (h : EndsNumber t) (w : Text) :
    exponentPart? (w ++ t) = exponentPart? w := by
  cases w with
  | nil =>
      cases t with
      | nil => rfl
      | cons c t =>
          obtain ⟨-, -, hsmall, hcapital, -⟩ := endsNumber_cons h
          simp [exponentPart?, hsmall, hcapital]
  | cons c w =>
      have hlength : (w ++ t).length - ((Numeral.unsigned w).2 ++ t).length
          = w.length - (Numeral.unsigned w).2.length := by
        rw [List.length_append, List.length_append]
        omega
      simp only [List.cons_append, exponentPart?, unsigned_append h, takeWhile_isDigit_append h,
        hlength]

def exponentWidth : Option (Bool × Text × Nat) → Nat
  | some (_, _, width) => width
  | none => 0

theorem exponentWidth_le (w : Text) : exponentWidth (exponentPart? w) ≤ w.length := by
  unfold exponentPart?
  split
  · rename_i c t
    split
    · simp only
      split
      · exact Nat.zero_le _
      · have hdigits := (List.takeWhile_sublist CodePoint.isDigit
          (l := (Numeral.unsigned t).2)).length_le
        have hunsigned := length_unsigned_le t
        simp only [exponentWidth, List.length_cons]
        omega
    · exact Nat.zero_le _
  · exact Nat.zero_le _

/-! ## The whole -/

/-- The number whose digits begin here, given whether a minus is in front of them. -/
def unsignedParts? (negative : Bool) (body : Text) : Option NumberParts := do
  let whole ← wholePart? body
  let sign := if negative then 1 else 0
  let afterWhole := body.drop whole.length
  let fraction := fractionPart? afterWhole
  let exponent := exponentPart? (afterWhole.drop (fractionWidth fraction))
  return { negative, whole, fraction,
           exponent := exponent.map fun (minus, digits, _) => (minus, digits),
           width := sign + whole.length + fractionWidth fraction + exponentWidth exponent }

theorem numberParts?_minus (body : Text) :
    numberParts? (.scalar '-' :: body) = unsignedParts? true body := rfl

theorem numberParts?_of_ne {c : CodePoint} (hc : c ≠ .scalar '-') (t : Text) :
    numberParts? (c :: t) = unsignedParts? false (c :: t) := by
  unfold numberParts?
  split
  rename_i negative body heq
  split at heq
  · rename_i hminus
    exact absurd (List.cons.inj hminus).1 hc
  · cases heq
    rfl

theorem unsignedParts?_append (h : EndsNumber t) (negative : Bool) (w : Text) :
    unsignedParts? negative (w ++ t) = unsignedParts? negative w := by
  unfold unsignedParts?
  rw [wholePart?_append h]
  cases hwhole : wholePart? w with
  | none => rfl
  | some whole =>
      have hle := (wholePart?_eq_some hwhole).2.1.length_le
      simp only [Option.bind_eq_bind, Option.bind_some, List.drop_append_of_le_length hle,
        fractionPart?_append h, List.drop_append_of_le_length (fractionWidth_le _),
        exponentPart?_append h]

/-- What a number is does not depend on what follows it. -/
theorem numberParts?_append (h : EndsNumber t) (w : Text) :
    numberParts? (w ++ t) = numberParts? w := by
  cases w with
  | nil =>
      cases t with
      | nil => rfl
      | cons c t =>
          rw [List.nil_append, numberParts?_of_ne (endsNumber_cons h).2.2.2.2.2]
          exact unsignedParts?_append h false []
  | cons c w =>
      by_cases hc : c = .scalar '-'
      · subst hc
        exact unsignedParts?_append h true w
      · rw [List.cons_append, numberParts?_of_ne hc, numberParts?_of_ne hc]
        exact unsignedParts?_append h false (c :: w)

theorem unsignedParts?_eq_some {negative : Bool} {w : Text} {parts : NumberParts}
    (h : unsignedParts? negative w = some parts) :
    0 < parts.width ∧ parts.width ≤ (if negative then 1 else 0) + w.length
      ∧ ∀ c ∈ w.head?, c.isDigit = true := by
  unfold unsignedParts? at h
  cases hwhole : wholePart? w with
  | none =>
      rw [hwhole] at h
      cases h
  | some whole =>
      obtain ⟨hne, hprefix, hdigit⟩ := wholePart?_eq_some hwhole
      have hpos := List.length_pos_iff.mpr hne
      have hle := hprefix.length_le
      simp only [hwhole, Option.bind_eq_bind, Option.bind_some] at h
      obtain rfl := Option.some.inj h
      have hfraction := fractionWidth_le (w.drop whole.length)
      have hexponent := exponentWidth_le
        ((w.drop whole.length).drop (fractionWidth (fractionPart? (w.drop whole.length))))
      simp only [List.length_drop] at hfraction hexponent
      refine ⟨?_, ?_, hdigit⟩ <;> simp only <;> omega

/-- A number takes up something, no more than there is, and shows by its first character. -/
theorem numberParts?_eq_some {t : Text} {parts : NumberParts} (h : numberParts? t = some parts) :
    0 < parts.width ∧ parts.width ≤ t.length
      ∧ ∃ c u, t = c :: u ∧ (c = .scalar '-' ∨ c.isDigit = true) := by
  cases t with
  | nil => cases h
  | cons c t =>
      by_cases hc : c = .scalar '-'
      · subst hc
        obtain ⟨hpositive, hle, -⟩ := unsignedParts?_eq_some (numberParts?_minus t ▸ h)
        rw [if_pos rfl, Nat.add_comm] at hle
        exact ⟨hpositive, hle, _, t, rfl, .inl rfl⟩
      · rw [numberParts?_of_ne hc] at h
        obtain ⟨hpositive, hle, hdigit⟩ := unsignedParts?_eq_some h
        rw [if_neg Bool.false_ne_true, Nat.zero_add] at hle
        exact ⟨hpositive, hle, c, t, rfl, .inr (hdigit c rfl)⟩

end Json

end HostFacts
