import HostFacts.Proofs.MacVersion.Segments
import HostFacts.Proofs.Version.Numerals

/-!
# Codes of a macOS version

The code of a version is a run of digits whose number has the major number in the
hundreds, the minor number in the tens and the patch number in the ones (`digits_code`),
the latter two stopped at nine. Below that stop the number tells the version
(`eq_of_code_eq`), and larger versions have larger numbers (`codeNumber_mono`). The code
with a zero for the patch stops at nine too, but keeps the order of all versions, since
the minor number is the last that it has (`majorCodeNumber_mono`).
-/

namespace HostFacts.MacVersion

open Version Numeral

structure Nonneg (m : MacVersion) : Prop where
  major : 0 ≤ m.major
  minor : 0 ≤ m.minor
  patch : 0 ≤ m.patch

variable {version v w : Text} {m n : MacVersion}

/-! ## Single digits -/

theorem digits_oneDigit {i : Int} (h : 0 ≤ i) : Digits (oneDigit i) (min i 9) :=
  digits_ofInt (by omega)

theorem length_oneDigit {i : Int} (h : 0 ≤ i) : (oneDigit i).length = 1 := by
  have hle : (oneDigit i).length ≤ 1 := (length_ofInt_le_iff (by omega) (by decide)).mpr (by omega)
  exact Nat.le_antisymm hle (List.length_pos_iff.mpr (ofInt_ne_nil _))

/-! ## What the codes write -/

/-- The number that the code writes. -/
def codeNumber (m : MacVersion) : Int := 100 * m.major + 10 * min m.minor 9 + min m.patch 9

/-- The number that the code with a zero for the patch writes. -/
def majorCodeNumber (m : MacVersion) : Int := 100 * m.major + 10 * min m.minor 9

/-- One digit for the minor number and one behind it. -/
theorem Nonneg.digits_append (h : m.Nonneg) {last : Text} {i : Int} (hlast : Digits last i)
    (hlen : last.length = 1) :
    Digits (twoPlaces m.major ++ oneDigit m.minor ++ last) (majorCodeNumber m + i) := by
  have hcode := ((digits_twoPlaces h.major).append (digits_oneDigit h.minor)).append hlast
  rw [length_oneDigit h.minor, hlen] at hcode
  have hnumber : (m.major * 10 ^ 1 + min m.minor 9) * 10 ^ 1 + i = majorCodeNumber m + i := by
    rw [majorCodeNumber]
    ring
  rwa [hnumber] at hcode

theorem digits_code (h : m.Nonneg) : Digits m.code (codeNumber m) :=
  h.digits_append (digits_oneDigit h.patch) (length_oneDigit h.patch)

theorem digits_majorCode (h : m.Nonneg) : Digits m.majorCode (majorCodeNumber m) := by
  have hzero : Digits ("0" : Text) 0 := ⟨by decide, rfl⟩
  have hcode := h.digits_append hzero rfl
  rwa [Int.add_zero] at hcode

theorem four_le_length_code (h : m.Nonneg) : 4 ≤ m.code.length := by
  rw [code, List.length_append, List.length_append, length_oneDigit h.minor,
    length_oneDigit h.patch]
  exact Nat.add_le_add_right (two_le_length_twoPlaces m.major) 2

theorem majorCode_eq (h : m.Nonneg) : m.majorCode = m.code.dropLast ++ ("0" : Text) := by
  obtain ⟨c, hc⟩ := List.length_eq_one_iff.mp (length_oneDigit h.patch)
  rw [majorCode, code, hc, List.dropLast_concat]

/-! ## Different versions -/

theorem eq_of_code_eq (hm : m.Nonneg) (hn : n.Nonneg) (hmminor : m.minor ≤ 9)
    (hmpatch : m.patch ≤ 9) (hnminor : n.minor ≤ 9) (hnpatch : n.patch ≤ 9)
    (h : m.code = n.code) : m = n := by
  have hnumber : codeNumber m = codeNumber n := by
    rw [← (digits_code hm).value, h, (digits_code hn).value]
  obtain ⟨-, hmminor0, hmpatch0⟩ := hm
  obtain ⟨-, hnminor0, hnpatch0⟩ := hn
  rw [codeNumber, codeNumber] at hnumber
  -- both numbers below ten, they are the remainders of the code by tens
  have hpatch : m.patch = n.patch := by omega
  have hminor : m.minor = n.minor := by omega
  have hmajor : m.major = n.major := by omega
  cases m
  cases n
  rw [mk.injEq]
  exact ⟨hmajor, hminor, hpatch⟩

theorem minor_patch_eq_of_minorCode_eq (hm : m.Nonneg) (hn : n.Nonneg) (hmpatch : m.patch ≤ 99)
    (hnpatch : n.patch ≤ 99) (h : m.minorCode = n.minorCode) :
    m.minor = n.minor ∧ m.patch = n.patch := by
  have hlen : (twoPlaces m.patch).length = (twoPlaces n.patch).length := by
    rw [length_twoPlaces hm.patch hmpatch, length_twoPlaces hn.patch hnpatch]
  obtain ⟨hminor, hpatch⟩ := List.append_inj' h hlen
  exact ⟨twoPlaces_inj hm.minor hn.minor hminor, twoPlaces_inj hm.patch hn.patch hpatch⟩

/-! ## Order -/

theorem majorCodeNumber_mono (hm : m.Nonneg) (hn : n.Nonneg) (h : Precedes m n) :
    majorCodeNumber m ≤ majorCodeNumber n := by
  have hm0 := hm.minor
  have hn0 := hn.minor
  rw [majorCodeNumber, majorCodeNumber]
  obtain hmajor | ⟨hmajor, hminor | ⟨hminor, -⟩⟩ := h
  · omega
  · omega
  · rw [hmajor, hminor]

theorem codeNumber_mono (hm : m.Nonneg) (hn : n.Nonneg) (hmminor : m.minor ≤ 9)
    (hnminor : n.minor ≤ 9) (h : Precedes m n) : codeNumber m ≤ codeNumber n := by
  obtain ⟨-, hm0, hmp0⟩ := hm
  obtain ⟨-, hn0, hnp0⟩ := hn
  rw [codeNumber, codeNumber]
  obtain hmajor | ⟨hmajor, hminor | ⟨hminor, hpatch⟩⟩ := h
  · omega
  · omega
  · omega

/-! ## The headline theorem -/

/-- What the codes of a version are. -/
structure Coded (version : Text) (m : MacVersion) : Prop where
  read : ofText version = .ok m
  digits : ∀ c ∈ m.code, c.isDigit = true
  length : 4 ≤ m.code.length
  value : (placeValue m.code : Int) = 100 * m.major + 10 * min m.minor 9 + min m.patch 9
  majorCode : m.majorCode = m.code.dropLast ++ ("0" : Text)

theorem Denotes.coded (h : Denotes version m) (hm : m.Nonneg) : Coded version m where
  read := ofText_eq_ok_iff.mpr h
  digits := (digits_code hm).isDigit
  length := four_le_length_code hm
  value := (digits_code hm).value
  majorCode := majorCode_eq hm

/-- **The codes write numbers, in the order of the versions where nothing is stopped at
nine.** For versions whose numbers are not negative: the code is digits only, with the
major number in the hundreds. It tells versions apart whose minor and patch number have
one digit, and the code of two places each tells minor and patch number apart if the
latter has at most two. Of versions without empty segments the one that compares as the
larger has no smaller code, patch left out, and with the patch if both minor numbers have
one digit. -/
theorem codes_tell_numbers (hv : Denotes v m) (hw : Denotes w n) (hm : m.Nonneg)
    (hn : n.Nonneg) :
    (Coded v m ∧ Coded w n)
    ∧ (m.minor ≤ 9 → m.patch ≤ 9 → n.minor ≤ 9 → n.patch ≤ 9 → m.code = n.code →
        ofText v = ofText w)
    ∧ (m.patch ≤ 99 → n.patch ≤ 99 → m.minorCode = n.minorCode →
        m.minor = n.minor ∧ m.patch = n.patch)
    ∧ (NoGaps v → NoGaps w → ∀ o, compare (some v) (some w) = .ok o → o ≠ .gt →
        placeValue m.majorCode ≤ placeValue n.majorCode
          ∧ (m.minor ≤ 9 → n.minor ≤ 9 → placeValue m.code ≤ placeValue n.code)) := by
  refine ⟨⟨hv.coded hm, hw.coded hn⟩, fun hmminor hmpatch hnminor hnpatch hcode => ?_,
    minor_patch_eq_of_minorCode_eq hm hn, fun hgv hgw o hcompare ho => ?_⟩
  · rw [(hv.coded hm).read, (hw.coded hn).read,
      eq_of_code_eq hm hn hmminor hmpatch hnminor hnpatch hcode]
  · have hprecedes := precedes_of_compare hv hw hgv hgw hcompare ho
    constructor
    · have hmono := majorCodeNumber_mono hm hn hprecedes
      rw [← (digits_majorCode hm).value, ← (digits_majorCode hn).value] at hmono
      exact Int.ofNat_le.mp hmono
    · intro hmminor hnminor
      have hmono := codeNumber_mono hm hn hmminor hnminor hprecedes
      rw [← (digits_code hm).value, ← (digits_code hn).value] at hmono
      exact Int.ofNat_le.mp hmono

/-- At the boundary: `10.9.5` is below `10.10`, whose minor number is stopped at nine. The
codes with a zero for the patch keep that order, and those with the patch do not. -/
theorem codes_at_ten_ten :
    (Coded "10.9.5" ⟨10, 9, 5⟩ ∧ Coded "10.10" ⟨10, 10, 0⟩)
    ∧ Version.compare (some "10.9.5") (some "10.10") = .ok .lt
    ∧ placeValue (majorCode ⟨10, 9, 5⟩) ≤ placeValue (majorCode ⟨10, 10, 0⟩)
    ∧ ¬ placeValue (code ⟨10, 9, 5⟩) ≤ placeValue (code ⟨10, 10, 0⟩) := by
  have hlt : Version.compare (some "10.9.5") (some "10.10") = .ok .lt := by decide
  have h := codes_tell_numbers (v := "10.9.5") (w := "10.10") (m := ⟨10, 9, 5⟩)
    (n := ⟨10, 10, 0⟩) (ofText_eq_ok_iff.mp (by decide)) (ofText_eq_ok_iff.mp (by decide))
    ⟨by decide, by decide, by decide⟩ ⟨by decide, by decide, by decide⟩
  obtain ⟨hcoded, -, -, horder⟩ := h
  have hmajor := (horder (by decide) (by decide) .lt hlt (by decide)).1
  exact ⟨hcoded, hlt, hmajor, by decide⟩

end HostFacts.MacVersion
