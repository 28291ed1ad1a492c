import Mathlib.Data.List.Chain
import HostFacts.Proofs.Version.Reaching
import HostFacts.Snapshot.Facts

/-!
# Ladders of releases

The gates of a family, in the order of its releases, are open up to one of them and
closed from there on. The versions of the releases ascend, and a version reaches all
that are below one that it reaches, so that no gate behind a closed one is open
(`isLadder_of_descends`). Both families are ladders of one kind (`ladderOf`), that of a
name and a list of versions. A host is of one family at most, since no name starts in
two ways (`isOfFamily_of_apart`); the gates of the other one are closed, and they are
closed without a look at the version.
-/

namespace HostFacts

open Version Numeral

/-! ## The versions of the releases -/

theorem WindowsRelease.ascending :
    (all.map version).IsChain fun v w => compare (some v) (some w) = .ok .lt := by decide

theorem MacRelease.ascending :
    (all.map version).IsChain fun v w => compare (some v) (some w) = .ok .lt := by
  decide +kernel

theorem WindowsRelease.readable : ∀ v ∈ all.map version, Readable (some v) := by
  have hself : ∀ v ∈ all.map version, compare (some v) (some v) = .ok .eq := by decide
  exact fun v hv => (compare_eq_ok_iff.mp (hself v hv)).1.1

theorem MacRelease.readable : ∀ v ∈ all.map version, Readable (some v) := by
  have hself : ∀ v ∈ all.map version, compare (some v) (some v) = .ok .eq := by decide +kernel
  exact fun v hv => (compare_eq_ok_iff.mp (hself v hv)).1.1

theorem WindowsRelease.ofName?_name (r : WindowsRelease) : ofName? r.name = some r := by
  cases r <;> decide

theorem MacRelease.ofName?_name (r : MacRelease) : ofName? r.name = some r := by
  cases r <;> decide

namespace Snapshot

/-! ## Families -/

/-- The name of a system starts in one way only. -/
theorem isOfFamily_of_apart {s : Snapshot} {starts others : List Text}
    (h : s.isOfFamily starts = true)
    (hapart : ∀ a ∈ starts, ∀ b ∈ others, ¬ a <+: b ∧ ¬ b <+: a) :
    s.isOfFamily others = false := by
  rw [isOfFamily, Text.startsWithAny, List.any_eq_true] at h
  obtain ⟨a, ha, hprefix⟩ := h
  rw [isOfFamily, Text.startsWithAny, List.any_eq_false]
  intro b hb hprefix'
  obtain ⟨hab, hba⟩ := hapart a ha b hb
  rw [List.isPrefixOf_iff_prefix] at hprefix hprefix'
  rcases List.prefix_or_prefix_of_prefix hprefix hprefix' with hle | hle
  · exact hab hle
  · exact hba hle

theorem isMac_of_isWindows {s : Snapshot} (h : s.isWindows = true) : s.isMac = false :=
  isOfFamily_of_apart h (by decide)

/-! ## Gates in a row -/

/-- Gates that are open up to one of them and closed from there on. -/
def IsLadder (gates : List Gate) : Prop :=
  ∃ reached missed,
    gates = List.replicate reached (.ok true) ++ List.replicate missed (.ok false)

theorem isLadder_of_closed {gates : List Gate} (h : ∀ gate ∈ gates, gate = .ok false) :
    IsLadder gates :=
  ⟨0, gates.length, List.eq_replicate_iff.mpr ⟨rfl, h⟩⟩

/-- Behind a closed gate none is open. -/
theorem isLadder_of_descends {α : Type} {steps : List α} {isOpen : α → Bool}
    (h : steps.Pairwise fun a b => isOpen b = true → isOpen a = true) :
    IsLadder (steps.map fun a => .ok (isOpen a)) := by
  induction steps with
  | nil => exact ⟨0, 0, rfl⟩
  | cons a steps ih =>
      obtain ⟨hfirst, hrest⟩ := List.pairwise_cons.mp h
      cases hopen : isOpen a with
      | true =>
          obtain ⟨reached, missed, heq⟩ := ih hrest
          refine ⟨reached + 1, missed, ?_⟩
          rw [List.map_cons, hopen, heq]
          rfl
      | false =>
          refine isLadder_of_closed fun gate hgate => ?_
          obtain ⟨b, hb, rfl⟩ := List.mem_map.mp hgate
          rcases List.mem_cons.mp hb with rfl | hb
          · rw [hopen]
          · have hclosed : isOpen b = false := Bool.eq_false_iff.mpr fun hb' => by
              rw [hfirst b hb hb'] at hopen
              cases hopen
            rw [hclosed]

/-! ## The ladder of a family -/

/-- The gates of versions, which are closed to a host that is not of their family. -/
def ladderOf (s : Snapshot) (isOfFamily : Bool) (versions : List Text) : List Gate :=
  versions.map fun v => if isOfFamily then s.osVersionAtLeast (some v) else .ok false

variable {s : Snapshot} {versions : List Text}

theorem ladderOf_closed : ∀ gate ∈ s.ladderOf false versions, gate = .ok false := by
  intro gate hgate
  obtain ⟨v, -, rfl⟩ := List.mem_map.mp hgate
  rfl

/-- Versions that ascend have gates that are a ladder. -/
theorem isLadder_ladderOf (hs : Readable (some s.osVersion)) (isOfFamily : Bool)
    (hreadable : ∀ v ∈ versions, Readable (some v))
    (hascending : versions.IsChain fun v w => compare (some v) (some w) = .ok .lt) :
    IsLadder (s.ladderOf isOfFamily versions) := by
  cases isOfFamily with
  | false => exact isLadder_of_closed ladderOf_closed
  | true =>
      have hgates : s.ladderOf true versions
          = versions.map fun v => .ok (decide (rank (some v) ≤ rank (some s.osVersion))) :=
        List.map_congr_left fun v hv => atLeast_eq_decide hs (hreadable v hv)
      have hranks : versions.Pairwise fun v w => rank (some v) < rank (some w) := by
        rw [← List.pairwise_map (f := fun v => rank (some v)) (R := (· < ·)),
          ← List.isChain_iff_pairwise, List.isChain_map]
        refine hascending.imp fun v w h => ?_
        obtain ⟨-, hlt⟩ := compare_eq_ok_iff.mp h
        exact compares_rank_iff.mpr hlt
      rw [hgates]
      refine isLadder_of_descends (hranks.imp fun hvw hopen => ?_)
      rw [decide_eq_true_eq] at hopen ⊢
      exact hvw.le.trans hopen

/-- Of a version that cannot be read all gates fail alike. -/
theorem ladderOf_overLong {e : TooLong} (h : FirstOverLong (Text.split dot s.osVersion) e) :
    ∀ gate ∈ s.ladderOf true versions, gate = .error e := by
  intro gate hgate
  obtain ⟨v, -, rfl⟩ := List.mem_map.mp hgate
  exact atLeast_of_firstOverLong h v

theorem ladderOf_congr {t : Snapshot} (hreadable : ∀ v ∈ versions, Readable (some v))
    (h : compare (some s.osVersion) (some t.osVersion) = .ok .eq) (isOfFamily : Bool) :
    t.ladderOf isOfFamily versions = s.ladderOf isOfFamily versions := by
  obtain ⟨⟨hs, ht⟩, -⟩ := compare_eq_ok_iff.mp h
  refine List.map_congr_left fun v hv => ?_
  obtain ⟨-, hcompare⟩ := compare_congr (hreadable v hv) hs ht h
  simp only [osVersionAtLeast, atLeast, hcompare]

/-! ## The ladders of Windows and macOS -/

/-- The gates of the releases of Windows, in their order. -/
def windowsLadder (s : Snapshot) : List Gate := WindowsRelease.all.map s.windowsAtLeast

/-- The gates of the releases of macOS, in their order. -/
def macLadder (s : Snapshot) : List Gate := MacRelease.all.map s.macAtLeast

theorem windowsLadder_eq (s : Snapshot) :
    s.windowsLadder = s.ladderOf s.isWindows (WindowsRelease.all.map WindowsRelease.version) :=
  (List.map_map ..).symm

theorem macLadder_eq (s : Snapshot) :
    s.macLadder = s.ladderOf s.isMac (MacRelease.all.map MacRelease.version) :=
  (List.map_map ..).symm

theorem windowsAtLeastNamed_name (s : Snapshot) (r : WindowsRelease) :
    s.windowsAtLeastNamed r.name = (s.windowsAtLeast r).mapError .numeral := by
  unfold windowsAtLeastNamed
  rw [WindowsRelease.ofName?_name]
  unfold windowsAtLeast
  split <;> rfl

theorem macAtLeastNamed_name (s : Snapshot) (r : MacRelease) :
    s.macAtLeastNamed r.name = (s.macAtLeast r).mapError .numeral := by
  unfold macAtLeastNamed
  rw [MacRelease.ofName?_name]
  unfold macAtLeast
  split <;> rfl

/-! ## The headline theorem -/

/-- The gates of a snapshot: what they say of versions that can be read, and of one that cannot. -/
structure Graded (s : Snapshot) : Prop where
  answered : Readable (some s.osVersion) → ∀ v, Readable v → ∃ b, s.osVersionAtLeast v = .ok b
  downward : Readable (some s.osVersion) → ∀ v w, Readable v → Readable w →
    compare v w ≠ .ok .gt → s.osVersionAtLeast w = .ok true → s.osVersionAtLeast v = .ok true
  windows : Readable (some s.osVersion) → IsLadder s.windowsLadder
  mac : Readable (some s.osVersion) → IsLadder s.macLadder
  /-- A gate of another family is closed, whatever the version is. -/
  offWindows : s.isWindows = false → ∀ gate ∈ s.windowsLadder, gate = .ok false
  offMac : s.isMac = false → ∀ gate ∈ s.macLadder, gate = .ok false
  oneFamily : s.isWindows = true → s.isMac = false
  oneLadder : .ok true ∈ s.windowsLadder → .ok true ∉ s.macLadder
  sameVersion : ∀ t : Snapshot, t.osName = s.osName →
    compare (some s.osVersion) (some t.osVersion) = .ok .eq →
      t.windowsLadder = s.windowsLadder ∧ t.macLadder = s.macLadder
  /-- The one error of an over-long version is that of its first over-long segment. -/
  overLong : ¬ Readable (some s.osVersion) → ∃ e, FirstOverLong (Text.split dot s.osVersion) e
    ∧ (s.isWindows = true → ∀ gate ∈ s.windowsLadder, gate = .error e)
    ∧ (s.isMac = true → ∀ gate ∈ s.macLadder, gate = .error e)
  /-- The gates are those that are asked for by the names of the releases. -/
  named : (∀ r : WindowsRelease,
      s.windowsAtLeastNamed r.name = (s.windowsAtLeast r).mapError .numeral)
    ∧ ∀ r : MacRelease, s.macAtLeastNamed r.name = (s.macAtLeast r).mapError .numeral

/-- **Gates are downward closed, and ladders have one step between open and closed.** A gate of
another family is closed, and one of an over-long version fails. -/
theorem gates_graded (s : Snapshot) : s.Graded where
  answered hs v hv := ⟨_, atLeast_eq_decide hs hv⟩
  downward hs v w hv hw hvw h := atLeast_of_compare hs hv hw hvw h
  windows hs := by
    rw [windowsLadder_eq]
    exact isLadder_ladderOf hs _ WindowsRelease.readable WindowsRelease.ascending
  mac hs := by
    rw [macLadder_eq]
    exact isLadder_ladderOf hs _ MacRelease.readable MacRelease.ascending
  offWindows h := by
    rw [windowsLadder_eq, h]
    exact ladderOf_closed
  offMac h := by
    rw [macLadder_eq, h]
    exact ladderOf_closed
  oneFamily := isMac_of_isWindows
  oneLadder hwindows hmac := by
    cases h : s.isWindows with
    | false =>
        rw [windowsLadder_eq, h] at hwindows
        cases ladderOf_closed _ hwindows
    | true =>
        rw [macLadder_eq, isMac_of_isWindows h] at hmac
        cases ladderOf_closed _ hmac
  sameVersion t hname hversion := by
    have hwindows : t.isWindows = s.isWindows := by simp only [isWindows, isOfFamily, hname]
    have hmac : t.isMac = s.isMac := by simp only [isMac, isOfFamily, hname]
    rw [windowsLadder_eq, windowsLadder_eq, macLadder_eq, macLadder_eq, hwindows, hmac]
    exact ⟨ladderOf_congr WindowsRelease.readable hversion _,
      ladderOf_congr MacRelease.readable hversion _⟩
  overLong h := by
    obtain ⟨e, he⟩ := firstOverLong_of_not_readable h
    refine ⟨e, he, fun hwindows => ?_, fun hmac => ?_⟩
    · rw [windowsLadder_eq, hwindows]
      exact ladderOf_overLong he
    · rw [macLadder_eq, hmac]
      exact ladderOf_overLong he
  named := ⟨s.windowsAtLeastNamed_name, s.macAtLeastNamed_name⟩

/-- Windows 7 with a build behind it, and a version of macOS that is between two releases. -/
example :
    windowsLadder { osName := "Windows", osVersion := "6.1.7601" }
        = List.replicate 4 (.ok true) ++ List.replicate 2 (.ok false)
      ∧ macLadder { osName := "Darwin", osVersion := "10.16" }
        = List.replicate 12 (.ok true) ++ List.replicate 5 (.ok false) := by
  decide +kernel

end Snapshot

end HostFacts
