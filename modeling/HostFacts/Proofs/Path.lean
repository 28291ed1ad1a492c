import HostFacts.Settings.Loading

/-!
# The normal form of paths

A path is in normal form if each of its parts names something: none is empty,
a single dot or cut by a slash. Every path that is read from a text is of this
form, and the form is what survives a trip through text: a normal path is read
back from its own text (`ofText_text`), whichever of the three roots it has.
The place of the settings is normal too, so that it is the same place for one
who has the path and for one who has only its text.
-/

namespace HostFacts

namespace Path

structure IsNormal (p : Path) : Prop where
  nonempty : ∀ part ∈ p.parts, part ≠ []
  notDot : ∀ part ∈ p.parts, part ≠ [.scalar '.']
  slashless : ∀ part ∈ p.parts, slash ∉ part

theorem isNormal_ofText (t : Text) : (ofText t).IsNormal := by
  have hparts : ∀ part ∈ (ofText t).parts,
      part ∈ Text.split slash t ∧ part ≠ [] ∧ part ≠ [.scalar '.'] := by
    intro part hmem
    simpa [ofText, partsOf] using hmem
  exact ⟨fun part hmem => (hparts part hmem).2.1, fun part hmem => (hparts part hmem).2.2,
    fun part hmem => Text.sep_notMem_of_mem_split (hparts part hmem).1⟩

theorem IsNormal.child {p : Path} (h : p.IsNormal) {name : Text}
    (hname : (Path.mk .relative [name]).IsNormal) : (p.child name).IsNormal := by
  have hparts : ∀ part ∈ (p.child name).parts, part ∈ p.parts ∨ part ∈ [name] :=
    fun part hmem => List.mem_append.mp hmem
  refine ⟨fun part hmem => ?_, fun part hmem => ?_, fun part hmem => ?_⟩
  · exact (hparts part hmem).elim (h.nonempty part) (hname.nonempty part)
  · exact (hparts part hmem).elim (h.notDot part) (hname.notDot part)
  · exact (hparts part hmem).elim (h.slashless part) (hname.slashless part)

/-! ## Reading a path back -/

/-- Behind its root the text of a normal path does not begin with a slash. -/
theorem IsNormal.takeWhile_join {p : Path} (h : p.IsNormal) :
    (Text.join [slash] p.parts).takeWhile (· == slash) = [] := by
  cases hparts : p.parts with
  | nil => rfl
  | cons part parts =>
      have hmem : part ∈ p.parts := hparts ▸ List.mem_cons_self ..
      obtain ⟨c, rest, rfl⟩ := List.exists_cons_of_ne_nil (h.nonempty part hmem)
      have hc : c ≠ slash := fun he => h.slashless _ hmem (he ▸ List.mem_cons_self ..)
      cases parts with
      | nil => simp [Text.join, List.intercalate, hc]
      | cons q qs => simp [Text.join_cons_cons, hc]

theorem IsNormal.partsOf_join {p : Path} (h : p.IsNormal) :
    partsOf (Text.join [slash] p.parts) = p.parts := by
  have hkeep : p.parts.filter (fun part => !part.isEmpty && part != [.scalar '.']) = p.parts := by
    refine List.filter_eq_self.mpr fun part hmem => ?_
    simpa using ⟨h.nonempty part hmem, h.notDot part hmem⟩
  rw [partsOf]
  by_cases hnil : p.parts = []
  · rw [hnil]
    rfl
  · rw [Text.split_join hnil h.slashless, hkeep]

/-- A slash in front makes no part. -/
theorem partsOf_slash (t : Text) : partsOf (slash :: t) = partsOf t := by
  simp [partsOf, Text.split]

theorem takeWhile_slash_cons (t : Text) :
    (slash :: t).takeWhile (· == slash) = slash :: t.takeWhile (· == slash) := rfl

/-- **A normal path is read back from its text.** -/
theorem IsNormal.ofText_text {p : Path} (h : p.IsNormal) : ofText p.text = p := by
  obtain ⟨root, parts⟩ := p
  have hstart := h.takeWhile_join
  have hparts := h.partsOf_join
  simp only at hstart hparts
  cases root with
  | relative =>
      cases parts with
      | nil => rfl
      | cons part parts =>
          show Path.mk (rootOf _) (partsOf (Text.join [slash] (part :: parts))) = _
          rw [hparts]
          show Path.mk (rootOf (List.takeWhile _ (Text.join [slash] (part :: parts))).length) _ = _
          rw [hstart]
          rfl
  | slash =>
      show Path.mk (rootOf (List.takeWhile _ (slash :: Text.join [slash] parts)).length)
        (partsOf (slash :: Text.join [slash] parts)) = _
      rw [partsOf_slash, hparts, takeWhile_slash_cons, hstart]
      rfl
  | doubleSlash =>
      show Path.mk (rootOf (List.takeWhile _ (slash :: slash :: Text.join [slash] parts)).length)
        (partsOf (slash :: slash :: Text.join [slash] parts)) = _
      rw [partsOf_slash, partsOf_slash, hparts, takeWhile_slash_cons, takeWhile_slash_cons, hstart]
      rfl

end Path

/-! ## The place of the settings -/

namespace World

theorem exists_ofText_of_homeFor {w : World} {name : Text} {p : Path}
    (h : w.homeFor name = .ok p) : ∃ home, p = .ofText home := by
  unfold homeFor at h
  by_cases hnul : name.contains (.scalar '\x00')
  · rw [if_pos hnul] at h
    cases h
  · rw [if_neg hnul] at h
    cases hhome : (if name.isEmpty then (w.env.get? "HOME" <|> w.accounts.own)
        else w.accounts.byName.get? name).map withoutTrailingSlashes with
    | none =>
        simp only [hhome] at h
        cases h
    | some home =>
        simp only [hhome] at h
        split at h
        · cases h
        · cases h
          exact ⟨home, rfl⟩

end World

namespace Settings

theorem isNormal_defaultPath {w : World} {p : Path} (h : defaultPath w = .ok p) :
    p.IsNormal := by
  unfold defaultPath at h
  cases hplace : w.env.nonEmpty? pathVariable with
  | some t =>
      simp only [hplace] at h
      cases h
      exact Path.isNormal_ofText t
  | none =>
      simp only [hplace] at h
      cases hhome : w.home with
      | error failure =>
          rw [hhome] at h
          cases h
      | ok home =>
          rw [hhome] at h
          cases h
          obtain ⟨t, rfl⟩ := World.exists_ofText_of_homeFor hhome
          exact (Path.isNormal_ofText t).child (Path.isNormal_ofText fileName)

/-- The default place is the same place when only its text is passed on. -/
theorem ofText_text_defaultPath {w : World} {p : Path} (h : defaultPath w = .ok p) :
    Path.ofText p.text = p :=
  (isNormal_defaultPath h).ofText_text

end Settings

end HostFacts
