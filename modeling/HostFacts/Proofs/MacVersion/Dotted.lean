import HostFacts.Proofs.MacVersion.Segments
import HostFacts.Proofs.Version.Numerals

/-!
# A macOS version written from its numbers

The three numbers with dots between them are a version again, and it is read as these
numbers unless one of them has too many digits (`denotes_dotted`), which no number has
that was read (`Denotes.fewDigits`). A version without empty segments starts like the one
that is written from its numbers, so the two compare by what the version has behind its
third segment (`compare_dotted`).
-/

namespace HostFacts.MacVersion

open Version Numeral

variable {version : Text} {m : MacVersion}

def numbers (m : MacVersion) : List Int := [m.major, m.minor, m.patch]

/-- The version as `10.9.5`. -/
def dotted (m : MacVersion) : Text := Text.join [dot] (m.numbers.map ofInt)

theorem split_dotted (m : MacVersion) : Text.split dot m.dotted = m.numbers.map ofInt := by
  refine Text.split_join (List.cons_ne_nil _ _) fun piece hpiece => ?_
  obtain ⟨i, -, rfl⟩ := List.mem_map.mp hpiece
  exact dot_notMem_ofInt i

theorem majorVersion_eq (m : MacVersion) :
    m.majorVersion = Text.join [dot] ((Text.split dot m.dotted).take 2) := by
  have htake : (m.numbers.map ofInt).take 2 = [ofInt m.major, ofInt m.minor] := rfl
  rw [split_dotted, htake, Text.join_cons_cons, majorVersion]
  simp [Text.join, List.intercalate]

/-! ## Reading back -/

theorem noGaps_dotted (m : MacVersion) : NoGaps m.dotted := by
  intro t ht
  rw [split_dotted] at ht
  obtain ⟨i, -, rfl⟩ := List.mem_map.mp ht
  exact ofInt_ne_nil i

theorem readable_dotted (h : ∀ i ∈ m.numbers, FewDigits i) : Readable (some m.dotted) := by
  intro t ht e
  rw [split_dotted] at ht
  obtain ⟨i, hi, rfl⟩ := List.mem_map.mp ht
  exact not_overLong_ofInt (h i hi) e

theorem filled_dotted (m : MacVersion) : filled m.dotted = m.numbers.map ofInt := by
  rw [(noGaps_dotted m).filled_eq, split_dotted]

theorem denotes_dotted (h : ∀ i ∈ m.numbers, FewDigits i) : Denotes m.dotted m := by
  refine ⟨?_, ?_, ?_, fun t ht => readable_dotted h t ?_⟩
  · rw [filled_dotted]
    exact counts_iff.mpr (value_ofInt m.major).symm
  · rw [filled_dotted]
    exact counts_iff.mpr (value_ofInt m.minor).symm
  · rw [filled_dotted]
    exact counts_iff.mpr (value_ofInt m.patch).symm
  · rw [← (noGaps_dotted m).filled_eq]
    exact List.mem_of_mem_take ht

theorem Denotes.fewDigits (h : Denotes version m) : ∀ i ∈ m.numbers, FewDigits i := by
  obtain ⟨hmajor, hminor, hpatch⟩ := forall_take_iff.mp h.short
  intro i hi
  simp only [numbers, List.mem_cons, List.not_mem_nil, or_false] at hi
  rcases hi with rfl | rfl | rfl
  · exact counts_iff.mp h.major ▸ fewDigits_value hmajor
  · exact counts_iff.mp h.minor ▸ fewDigits_value hminor
  · exact counts_iff.mp h.patch ▸ fewDigits_value hpatch

/-! ## Behind the third segment -/

theorem exists_denotes (h : Readable (some version)) : ∃ m, Denotes version m :=
  ⟨⟨_, _, _⟩, counts_iff.mpr rfl, counts_iff.mpr rfl, counts_iff.mpr rfl,
    fun t ht => h t (List.mem_filter.mp (List.mem_of_mem_take ht)).1⟩

theorem sequence_dotted (m : MacVersion) :
    sequence m.dotted = extend m.numbers := by
  simp [Version.sequence, split_dotted, Function.comp_def, value_ofInt]

theorem compare_dotted (hgaps : NoGaps version) (hr : Readable (some version))
    (h : Denotes version m) {o : Ordering}
    (ho : o.Compares (toLex fun place => sequence version (place + 3)) (toLex fun _ => 0)) :
    compare (some version) (some m.dotted) = .ok o := by
  obtain ⟨hmajor, hminor, hpatch⟩ := h.sequence_eq hgaps
  have hstart : ∀ i < 3, sequence version i = sequence m.dotted i := by
    rw [sequence_dotted]
    intro i hi
    match i, hi with
    | 0, _ => exact hmajor
    | 1, _ => exact hminor
    | 2, _ => exact hpatch
  refine compare_eq_ok_iff.mpr ⟨⟨hr, readable_dotted h.fewDigits⟩, compares_of_drop hstart ?_⟩
  rw [sequence_dotted]
  exact ho

/-! ## The headline theorem -/

/-- **The numbers of a version and the comparison agree.** A version without empty or
over-long segments has numbers, and it is equal to the version that is written from them
if it has no more than three segments; otherwise the segments behind the third are
compared with zeros. Numbers with few digits are read back as they were written, so the
numbers of any version are. The major version is the first two of the three. -/
theorem numbers_agree_with_comparison :
    (∀ v, NoGaps v → Readable (some v) →
      ∃ m o, ofText v = .ok m ∧ compare (some v) (some m.dotted) = .ok o
        ∧ ((Text.split dot v).length ≤ 3 → o = .eq)
        ∧ o.Compares (toLex fun place => sequence v (place + 3)) (toLex fun _ => 0))
    ∧ (∀ m : MacVersion, (∀ i ∈ m.numbers, FewDigits i) → ofText m.dotted = .ok m)
    ∧ (∀ v m, ofText v = .ok m → ofText m.dotted = .ok m)
    ∧ ∀ m : MacVersion,
        m.majorVersion = Text.join [dot] ((Text.split dot m.dotted).take 2) := by
  refine ⟨fun v hgaps hr => ?_, fun m h => ?_, fun v m h => ?_, majorVersion_eq⟩
  · obtain ⟨m, hm⟩ := exists_denotes hr
    have ho := cmp_compares (toLex fun place => sequence v (place + 3)) (toLex fun _ => 0)
    refine ⟨m, _, ofText_eq_ok_iff.mpr hm, compare_dotted hgaps hr hm ho, fun hlen => ?_, ho⟩
    rw [cmp_eq_eq_iff, toLex_inj]
    funext place
    exact sequence_eq_zero (hlen.trans (Nat.le_add_left 3 place))
  · exact ofText_eq_ok_iff.mpr (denotes_dotted h)
  · exact ofText_eq_ok_iff.mpr (denotes_dotted (ofText_eq_ok_iff.mp h).fewDigits)

/-- A negative fourth segment puts the version below the one written from its numbers. -/
example :
    ofText "10.-9.+5.-1" = .ok ⟨10, -9, 5⟩ ∧ dotted ⟨10, -9, 5⟩ = "10.-9.5"
      ∧ Version.compare (some "10.-9.+5.-1") (some "10.-9.5") = .ok .lt := by
  decide

end HostFacts.MacVersion
