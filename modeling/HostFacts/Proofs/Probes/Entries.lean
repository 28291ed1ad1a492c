import HostFacts.Proofs.OsRelease.RoundTrip
import HostFacts.Proofs.Text.CodePoint
import HostFacts.Proofs.Text.Utf8
import HostFacts.Probes

/-!
# Entries of the release file

No entry has a surrogate in it. The file is decoded, which makes no surrogate, and
its lines, their values and what is left of these between blanks and quotes are
made of the characters of the file. Probes keep what they found, so that it stays
that way from call to call.
-/

namespace HostFacts

open Text

/-! ## Characters of a file -/

theorem Text.mem_of_mem_lines {t line : Text} (h : line ∈ lines t) : ∀ c ∈ line, c ∈ t := by
  fun_induction lines t generalizing line with
  | case1 => cases h
  | case2 t ih =>
      intro c hc
      rcases List.mem_cons.mp h with rfl | hrest
      · cases hc
      · exact List.mem_cons_of_mem _ (List.mem_cons_of_mem _ (ih hrest c hc))
  | case3 c t hpair hends ih =>
      intro d hd
      rcases List.mem_cons.mp h with rfl | hrest
      · cases hd
      · exact List.mem_cons_of_mem _ (ih hrest d hd)
  | case4 c t hpair hends hlines ih =>
      obtain rfl := List.mem_singleton.mp h
      exact List.forall_mem_singleton.mpr (List.mem_cons_self ..)
  | case5 c t hpair hends first rest hlines ih =>
      rw [hlines] at ih
      rcases List.mem_cons.mp h with rfl | hrest
      · refine List.forall_mem_cons.mpr ⟨List.mem_cons_self .., fun d hd => ?_⟩
        exact List.mem_cons_of_mem _ (ih (List.mem_cons_self ..) d hd)
      · exact fun d hd => List.mem_cons_of_mem _ (ih (List.mem_cons_of_mem _ hrest) d hd)

/-- Folding puts line feeds for carriage returns and nothing else. -/
theorem Text.mem_of_mem_foldOnto {done t : Text} :
    ∀ c ∈ foldOnto done t, c ∈ done ∨ c ∈ t ∨ c = .scalar '\n' := by
  fun_induction foldOnto done t with
  | case1 done => exact fun c hc => .inl (List.mem_reverse.mp hc)
  | case2 done t ih | case3 done t _ ih =>
      intro c hc
      rcases ih c hc with hdone | ht | hfeed
      · rcases List.mem_cons.mp hdone with rfl | hdone
        · exact .inr (.inr rfl)
        · exact .inl hdone
      · exact .inr (.inl (by simp [ht]))
      · exact .inr (.inr hfeed)
  | case4 done d t _ _ ih =>
      intro c hc
      rcases ih c hc with hdone | ht | hfeed
      · rcases List.mem_cons.mp hdone with rfl | hdone
        · exact .inr (.inl (List.mem_cons_self ..))
        · exact .inl hdone
      · exact .inr (.inl (List.mem_cons_of_mem _ ht))
      · exact .inr (.inr hfeed)

theorem World.isWellFormed_readText {w : World} {p : Path} {t : Text}
    (h : w.readText p = .ok t) : t.isWellFormed = true := by
  rw [World.readText_eq] at h
  split at h
  · cases h
  · split at h
    · cases h
    · rename_i bytes _
      split at h
      · cases h
      · rename_i u hdecode
        obtain rfl := Except.ok.inj h
        have hu := isWellFormed_iff.mp (Utf8.isWellFormed_of_decode hdecode)
        refine isWellFormed_iff.mpr fun c hc => ?_
        rcases mem_of_mem_foldOnto c hc with hnil | hc | rfl
        · cases hnil
        · exact hu c hc
        · rfl

/-! ## Entries -/

namespace OsRelease

theorem mem_of_assignment? {line name value : Text} (h : assignment? line = some (name, value)) :
    ∀ c ∈ value, c ∈ line := by
  unfold assignment? at h
  split at h
  · cases h
  · rename_i before rest hcut
    obtain ⟨rfl, -⟩ := cut_eq_some hcut
    dsimp only at h
    split at h
    · cases h
    · cases h
      intro c hc
      exact List.mem_append_right _
        (List.mem_cons_of_mem _ (mem_of_mem_trim (mem_of_mem_unquote hc)))

theorem isWellFormed_read {t : Text} (h : t.isWellFormed = true) :
    ∀ entry ∈ read t, entry.2.isWellFormed = true := by
  rintro ⟨name, value⟩ hentry
  obtain ⟨line, hline, hassigns⟩ := List.mem_filterMap.mp (Dictionary.mem_of_mem_ofPairs hentry)
  refine isWellFormed_iff.mpr fun c hc => ?_
  exact isWellFormed_iff.mp h c (mem_of_mem_lines hline c (mem_of_assignment? hassigns c hc))

theorem isWellFormed_load {w : World} {path : Path} {entries : Dictionary Text}
    (h : (load w path).result = .ok entries) : ∀ entry ∈ entries, entry.2.isWellFormed = true := by
  unfold load at h
  split at h
  · rename_i t hread
    cases h
    exact isWellFormed_read (World.isWellFormed_readText hread)
  · cases h
  · cases h
    exact nofun

end OsRelease

/-! ## Probes -/

/-- What a cell answers and what it holds then come from the cell or the computation. -/
theorem Once.forall_get {α ε : Type} {P : α → Prop} {cell : Once α} {computation : Except ε α}
    (hcell : ∀ a, cell = .set a → P a) (hcomputation : ∀ a, computation = .ok a → P a) :
    (∀ a, (cell.get computation).1 = .ok a → P a)
      ∧ ∀ a, (cell.get computation).2 = .set a → P a := by
  cases cell with
  | set a =>
      refine ⟨?_, ?_⟩
      · rintro _ ⟨⟩
        exact hcell a rfl
      · rintro _ ⟨⟩
        exact hcell a rfl
  | unset =>
      cases computation with
      | error e => exact ⟨nofun, nofun⟩
      | ok a =>
          refine ⟨?_, ?_⟩
          · rintro _ ⟨⟩
            exact hcomputation a rfl
          · rintro _ ⟨⟩
            exact hcomputation a rfl

namespace Probes

/-- The entries that the probes have found, if they have, have no surrogates. -/
def KeepsText (p : Probes) : Prop :=
  ∀ entries, p.release = .set entries → ∀ entry ∈ entries, entry.2.isWellFormed = true

theorem keepsText_unset (snapshot : Snapshot) (settings : Settings) :
    KeepsText { snapshot, settings } := by
  intro entries hset
  cases hset

theorem isWellFormed_osRelease {p : Probes} (hp : p.KeepsText) (w : World) :
    (∀ entries, (p.osRelease w).1.result = .ok entries →
        ∀ entry ∈ entries, entry.2.isWellFormed = true)
      ∧ (p.osRelease w).2.KeepsText := by
  unfold osRelease
  refine Once.forall_get hp fun entries hentries => ?_
  rw [OsRelease.look_eq] at hentries
  split at hentries
  · exact OsRelease.isWellFormed_load hentries
  · cases hentries
    exact nofun

theorem isWellFormed_releaseEntry {p : Probes} (hp : p.KeepsText) {w : World} {name value : Text}
    (h : (p.releaseEntry w name).1.result = .ok (some value)) : value.isWellFormed = true := by
  have hresult : ((p.osRelease w).1.result.map fun entries => Dictionary.get? entries name)
      = .ok (some value) := by
    rw [← Attempt.result_map]
    exact h
  cases hentries : (p.osRelease w).1.result with
  | error failure =>
      rw [hentries] at hresult
      cases hresult
  | ok entries =>
      rw [hentries] at hresult
      have hget := Except.ok.inj hresult
      exact (isWellFormed_osRelease hp w).1 entries hentries _ (Dictionary.mem_of_get?_eq_some hget)

end Probes

end HostFacts
