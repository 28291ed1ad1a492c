import HostFacts.Proofs.Snapshot.Ladders
import HostFacts.Proofs.Text.Case

/-!
# Families of systems

The families are told apart by how names start, and no start of one is the beginning of
a start of another (`familyStarts_apart`), so that a host is of one family at most,
whatever it is called. All flags of this kind are made from those of the families:
what is neither Windows nor OS/2 is a Unix, and a Unix that is no Mac has X11, which
leaves exactly one of the four for any name. The flags look at the name in lower case
only, and putting it in lower case once more changes nothing (`isOfFamily_lowered`).
-/

namespace HostFacts.Snapshot

/-! ## One family -/

/-- The starts of the names, family by family. -/
def familyStarts : List (List Text) :=
  [["windows"], ["os/2", "os2"], ["mac", "darwin"], ["linux"], ["freebsd"], ["sunos", "solaris"]]

theorem familyStarts_apart : familyStarts.Pairwise fun starts others =>
    ∀ a ∈ starts, ∀ b ∈ others, ¬ a <+: b ∧ ¬ b <+: a := by
  decide

/-- For each family whether the host is of it. -/
def families (s : Snapshot) : List Bool :=
  [s.isWindows, s.isOs2, s.isMac, s.isLinux, s.isFreebsd, s.isSolaris]

theorem families_eq (s : Snapshot) : s.families = familyStarts.map s.isOfFamily := rfl

theorem families_exclusive (s : Snapshot) :
    s.families.Pairwise fun a b => a = true → b = false := by
  rw [families_eq, List.pairwise_map]
  exact familyStarts_apart.imp fun hapart h => isOfFamily_of_apart h hapart

theorem count_true_le_one {flags : List Bool}
    (h : flags.Pairwise fun a b => a = true → b = false) : flags.count true ≤ 1 := by
  induction flags with
  | nil => exact Nat.zero_le 1
  | cons flag flags ih =>
      obtain ⟨hfirst, hrest⟩ := List.pairwise_cons.mp h
      cases flag with
      | false =>
          rw [List.count_cons_of_ne (by decide)]
          exact ih hrest
      | true =>
          have hnone : flags.count true = 0 :=
            List.count_eq_zero.mpr fun hmem => absurd (hfirst true hmem rfl) (by decide)
          rw [List.count_cons_self, hnone]

/-! ## Kinds of systems -/

theorem isUnix_eq (s : Snapshot) : s.isUnix = !s.isOfFamily ["windows", "os/2", "os2"] := by
  simp [isUnix, isWindows, isOs2, isOfFamily, Text.startsWithAny]

theorem isUnix_of_apart {s : Snapshot} {starts : List Text} (h : s.isOfFamily starts = true)
    (hapart : ∀ a ∈ starts, ∀ b ∈ (["windows", "os/2", "os2"] : List Text), ¬ a <+: b ∧ ¬ b <+: a) :
    s.isUnix = true := by
  rw [isUnix_eq, isOfFamily_of_apart h hapart]
  rfl

theorem isUnix_of_mem {s : Snapshot} {flag : Bool}
    (hmem : flag ∈ [s.isMac, s.isLinux, s.isFreebsd, s.isSolaris]) (h : flag = true) :
    s.isUnix = true := by
  subst h
  simp only [List.mem_cons, List.not_mem_nil, or_false] at hmem
  rcases hmem with hmac | hlinux | hfreebsd | hsolaris
  · exact isUnix_of_apart hmac.symm (by decide)
  · exact isUnix_of_apart hlinux.symm (by decide)
  · exact isUnix_of_apart hfreebsd.symm (by decide)
  · exact isUnix_of_apart hsolaris.symm (by decide)

/-- The kinds of systems, each with a way of its own to draw windows. -/
def kinds (s : Snapshot) : List Bool := [s.isWindows, s.isOs2, s.isMac, s.isXWindow]

theorem count_true_kinds (s : Snapshot) : s.kinds.count true = 1 := by
  obtain ⟨hwindows, hrest⟩ := List.pairwise_cons.mp s.families_exclusive
  obtain ⟨hos2, -⟩ := List.pairwise_cons.mp hrest
  have hos2_of_windows : s.isWindows = true → s.isOs2 = false := hwindows _ (by simp)
  have hmac_of_windows : s.isWindows = true → s.isMac = false := hwindows _ (by simp)
  have hmac_of_os2 : s.isOs2 = true → s.isMac = false := hos2 _ (by simp)
  rw [kinds, isXWindow, isUnix]
  cases hw : s.isWindows with
  | true =>
      rw [hos2_of_windows hw, hmac_of_windows hw]
      rfl
  | false =>
      cases ho : s.isOs2 with
      | true =>
          rw [hmac_of_os2 ho]
          rfl
      | false => cases s.isMac <;> rfl

theorem isUnix_iff (s : Snapshot) :
    s.isUnix = true ↔ s.isMac = true ∨ s.isXWindow = true := by
  cases hmac : s.isMac with
  | true => simp [isUnix_of_mem (List.mem_cons_self ..) hmac]
  | false => simp [isXWindow, hmac]

/-! ## Names in lower case -/

/-- The snapshot with the name of its system in lower case. -/
def lowered (s : Snapshot) : Snapshot := { s with osName := s.osName.lower }

theorem isOfFamily_lowered (s : Snapshot) (starts : List Text) :
    s.lowered.isOfFamily starts = s.isOfFamily starts := by
  rw [isOfFamily, isOfFamily, lowered, Text.lower_lower]

/-! ## The headline theorem -/

/-- What the flags of the families say of a host, each of them and together. -/
structure Partitioned (s : Snapshot) : Prop where
  oneFamily : s.families.count true ≤ 1
  oneKind : s.kinds.count true = 1
  unixFamilies : ∀ flag ∈ [s.isMac, s.isLinux, s.isFreebsd, s.isSolaris],
    flag = true → s.isUnix = true
  unix : s.isUnix = true ↔ s.isMac = true ∨ s.isXWindow = true
  caseSensitive : s.caseSensitive = none → s.isFileSystemCaseSensitive = s.isXWindow
  lowerCase : s.lowered.families = s.families ∧ s.lowered.kinds = s.kinds
    ∧ s.lowered.isUnix = s.isUnix
    ∧ s.lowered.isFileSystemCaseSensitive = s.isFileSystemCaseSensitive

/-- **The families part all hosts.** Whatever the name of its system, a host is of one family at
most and of exactly one kind, and the case of the letters has no part in it. -/
theorem families_part (s : Snapshot) : s.Partitioned where
  oneFamily := count_true_le_one s.families_exclusive
  oneKind := s.count_true_kinds
  unixFamilies _ hmem h := isUnix_of_mem hmem h
  unix := s.isUnix_iff
  caseSensitive h := by rw [isFileSystemCaseSensitive, h, Option.getD_none, isXWindow]
  lowerCase := by
    have hwindows : s.lowered.isWindows = s.isWindows := s.isOfFamily_lowered _
    have hos2 : s.lowered.isOs2 = s.isOs2 := s.isOfFamily_lowered _
    have hmac : s.lowered.isMac = s.isMac := s.isOfFamily_lowered _
    have hunix : s.lowered.isUnix = s.isUnix := by rw [isUnix, hwindows, hos2, isUnix]
    have hxwindow : s.lowered.isXWindow = s.isXWindow := by rw [isXWindow, hunix, hmac, isXWindow]
    refine ⟨?_, ?_, hunix, ?_⟩
    · rw [families_eq, families_eq]
      exact List.map_congr_left fun starts _ => s.isOfFamily_lowered starts
    · rw [kinds, hwindows, hos2, hmac, hxwindow, kinds]
    · rw [isFileSystemCaseSensitive, hunix, hmac, isFileSystemCaseSensitive]
      rfl

/-- An `İ` becomes two characters in lower case, so that this is no Windows. -/
example :
    families { osName := "WINDOWS" } = [true, false, false, false, false, false]
      ∧ kinds { osName := "WİNDOWS" } = [false, false, false, true]
      ∧ kinds { osName := "MacOS" } = [false, false, true, false] := by
  decide +kernel

end HostFacts.Snapshot
