import HostFacts.Proofs.Snapshot.Detection
import HostFacts.Proofs.Snapshot.Properties
import HostFacts.Proofs.Version.Cut

/-!
# Versions of Windows without their builds

Windows counts its builds in the version, and a host goes by the first two segments of
it alone (`osVersion_eq_upTo`). The gates of the releases ask for two segments at most
(`WindowsRelease.segments_le_two`, `MacRelease.segments_le_two`), so they open as they
would to the whole version. Symbolic links hang on one of them. Nothing else that a
snapshot says looks at the version, so the builds make no difference to it
(`isBlindTo_of_alike`), unless one of them counts below zero.
-/

namespace HostFacts

open Version Numeral

/-! ## The versions of the releases -/

theorem WindowsRelease.segments_le_two (r : WindowsRelease) :
    (Text.split dot r.version).length ≤ 2 := by
  cases r <;> decide

theorem MacRelease.segments_le_two (r : MacRelease) : (Text.split dot r.version).length ≤ 2 := by
  cases r <;> decide

/-! ## What a host of Windows goes by -/

namespace HostRecord

variable {host : HostRecord}

theorem platform_eq_windows (h : Text.lower host.system = "windows") :
    host.platform = .windows := by
  rw [platform, Platform.ofSystem, h]
  decide

theorem firstTwo?_eq_upTo {version : Text} (h : 2 ≤ (Text.split dot version).length) :
    firstTwo? version = some (upTo 2 version) := by
  unfold firstTwo? upTo
  match hsplit : Text.split dot version with
  | [] | [_] =>
      rw [hsplit] at h
      simp at h
  | major :: minor :: rest => simp [Text.join, List.intercalate]

theorem osVersion_eq_upTo (hplatform : host.platform = .windows)
    (h : 2 ≤ (Text.split dot host.version).length) : host.osVersion = upTo 2 host.version := by
  rw [osVersion, hplatform]
  show (firstTwo? host.version).getD host.release = _
  rw [firstTwo?_eq_upTo h, Option.getD_some]

/-- The version of a kernel is looked for on Linux alone. -/
theorem wslVersion_of_windows (hplatform : host.platform = .windows) :
    host.wslVersion = .ok none := by
  refine wslVersion_of_noFile ?_
  rw [kernelFile?, hplatform]
  rfl

end HostRecord

/-! ## Another version of the system -/

namespace Snapshot

/-- The snapshot with another version of the system. -/
def withVersion (s : Snapshot) (version : Text) : Snapshot := { s with osVersion := version }

/-- With another version of the system the snapshot says the same, but for the version itself. -/
structure IsBlindTo (s : Snapshot) (version : Text) : Prop where
  windows : (s.withVersion version).windowsLadder = s.windowsLadder
  mac : (s.withVersion version).macLadder = s.macLadder
  symlinks : (s.withVersion version).supportsSymlinks = s.supportsSymlinks
  properties : ∀ name : Text, name ≠ "os_version" →
    (s.withVersion version).property? name = s.property? name

/-- Two versions have gates of few segments alike. -/
def GatedAlike (v w : Text) : Prop :=
  ∀ q, (Text.split dot q).length ≤ 2 → Readable (some q) →
    ∃ b, atLeast (some v) (some q) = .ok b ∧ atLeast (some w) (some q) = .ok b

variable {s : Snapshot} {version : Text}

theorem gate_withVersion (h : GatedAlike s.osVersion version) {v : Text}
    (hshort : (Text.split dot v).length ≤ 2) (hv : Readable (some v)) (isAbout : Bool) :
    (if isAbout then (s.withVersion version).osVersionAtLeast (some v) else .ok false)
      = if isAbout then s.osVersionAtLeast (some v) else .ok false := by
  obtain ⟨b, hs, hversion⟩ := h v hshort hv
  have halike : (s.withVersion version).osVersionAtLeast (some v) = s.osVersionAtLeast (some v) :=
    hversion.trans hs.symm
  rw [halike]

theorem windowsAtLeast_withVersion (h : GatedAlike s.osVersion version) (r : WindowsRelease) :
    (s.withVersion version).windowsAtLeast r = s.windowsAtLeast r :=
  gate_withVersion h r.segments_le_two
    (WindowsRelease.readable _ (List.mem_map_of_mem r.mem_all)) s.isWindows

theorem macAtLeast_withVersion (h : GatedAlike s.osVersion version) (r : MacRelease) :
    (s.withVersion version).macAtLeast r = s.macAtLeast r :=
  gate_withVersion h r.segments_le_two
    (MacRelease.readable _ (List.mem_map_of_mem r.mem_all)) s.isMac

theorem get?_fields_withVersion {name : Text} (hname : name ≠ "os_version") :
    (s.withVersion version).fields.get? name = s.fields.get? name := by
  simp only [fields, withVersion, Dictionary.get?_cons, if_neg hname]

theorem isBlindTo_of_alike (h : GatedAlike s.osVersion version) : s.IsBlindTo version := by
  have hsymlinks : (s.withVersion version).supportsSymlinks = s.supportsSymlinks := by
    show (if s.isUnix then .ok true else (s.withVersion version).windowsAtLeast .vista) = _
    rw [windowsAtLeast_withVersion h]
    rfl
  have hflags : (s.withVersion version).flags = s.flags := by
    unfold flags
    rw [hsymlinks]
    rfl
  have hladders : (s.withVersion version).ladders = s.ladders := by
    simp only [ladders, windowsAtLeast_withVersion h, macAtLeast_withVersion h]
  exact {
    windows := List.map_congr_left fun r _ => windowsAtLeast_withVersion h r
    mac := List.map_congr_left fun r _ => macAtLeast_withVersion h r
    symlinks := hsymlinks
    properties := fun name hname => by
      rw [property?, property?, get?_fields_withVersion hname, hflags, releaseGate?_eq,
        releaseGate?_eq, hladders] }

/-! ## The headline theorem -/

theorem gatedAlike_osVersion {host : HostRecord} (hplatform : host.platform = .windows)
    (htwo : 2 ≤ (Text.split dot host.version).length) (hreadable : Readable (some host.version))
    (hbuilds : ∀ t ∈ (Text.split dot host.version).drop 2, ∀ n, Counts t n → 0 ≤ n) :
    GatedAlike host.osVersion host.version := by
  intro q hq hreadable'
  have hself := atLeast_upTo_self Nat.two_pos hreadable hbuilds
  refine ⟨_, ?_, atLeast_eq_decide hreadable hreadable'⟩
  rw [host.osVersion_eq_upTo hplatform htwo, atLeast_upTo Nat.two_pos hself hreadable' hq,
    atLeast_eq_decide hreadable hreadable']

/-- **Windows is known by two segments of its version as well as by all of them.** The host may
write its name in any case, and its version, which can be read, has two segments and no build
below zero behind them. Then every gate of two segments at most answers, and answers the same. A
snapshot can be taken, and it says the same of both, unless the settings put another version in
their place. -/
theorem windows_blindToBuilds (host : HostRecord) (hsystem : Text.lower host.system = "windows")
    (htwo : 2 ≤ (Text.split dot host.version).length) (hreadable : Readable (some host.version))
    (hbuilds : ∀ t ∈ (Text.split dot host.version).drop 2, ∀ n, Counts t n → 0 ≤ n) :
    GatedAlike host.osVersion host.version
    ∧ ∀ env settings, settings.overrides.osVersion = none →
      ∃ s, (detect host env settings).result = .ok s ∧ s.IsBlindTo host.version := by
  have hplatform := host.platform_eq_windows hsystem
  have halike := gatedAlike_osVersion hplatform htwo hreadable hbuilds
  refine ⟨halike, fun env settings hnone => ?_⟩
  refine ⟨_, detect_eq_ok_iff.mpr ⟨none, host.wslVersion_of_windows hplatform, rfl⟩, ?_⟩
  refine isBlindTo_of_alike ?_
  rw [override, hnone]
  exact halike

/-- The first service pack of Windows 7 goes by `6.1`, and so it would by all of its version. -/
theorem blindToBuilds_servicePack :
    let host : HostRecord :=
      ⟨"WINDOWS", "7", "6.1.7601", [], "AMD64", "CPython", "3.12.1", [], some 8, none⟩
    host.osVersion = "6.1"
      ∧ (∃ b, atLeast (some host.osVersion) (some "6.1") = .ok b
        ∧ atLeast (some host.version) (some "6.1") = .ok b)
      ∧ ∃ s, (detect host [] {}).result = .ok s ∧ s.IsBlindTo host.version := by
  intro host
  have hself : Version.compare (some "6.1.7601") (some "6.1") = .ok .gt := by decide
  obtain ⟨⟨hreadable, hreadable'⟩, -⟩ := compare_eq_ok_iff.mp hself
  have hdrop : (Text.split dot "6.1.7601").drop 2 = [("7601" : Text)] := by decide
  have hbuilds : ∀ t ∈ (Text.split dot "6.1.7601").drop 2, ∀ n, Counts t n → 0 ≤ n := by
    intro t ht n hn
    rw [hdrop, List.mem_singleton] at ht
    rw [counts_iff.mp hn, ht]
    decide
  obtain ⟨hgates, hsnapshots⟩ :=
    windows_blindToBuilds host (by decide +kernel) (by decide) hreadable hbuilds
  exact ⟨by decide +kernel, hgates "6.1" (by decide) hreadable', hsnapshots [] {} rfl⟩

end Snapshot

end HostFacts
