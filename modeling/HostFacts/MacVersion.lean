import HostFacts.Version

/-!
# macOS versions

A macOS version is a major, a minor and a patch number. The codes pack them
into few digits: the long-standing code has one digit each for minor and
patch, which stop at nine, and a code of two digits each covers minor and
patch without that loss.
-/

namespace HostFacts

structure MacVersion where
  major : Int
  minor : Int
  patch : Int
deriving Repr, DecidableEq

namespace MacVersion

/-- The first three segments that are not empty, and zero for those that are missing. -/
def ofText (version : Text) : Except Numeral.TooLong MacVersion := do
  let parts := (Text.split Version.dot version).filter (!·.isEmpty)
  let major ← Version.segment (parts.getD 0 [])
  let minor ← Version.segment (parts.getD 1 [])
  let patch ← Version.segment (parts.getD 2 [])
  return ⟨major, minor, patch⟩

/-- A single digit for a number: nine stands for all above. -/
def oneDigit (n : Int) : Text := Numeral.ofInt (min n 9)

/-- The version as `1095` for `10.9.5`. -/
def code (v : MacVersion) : Text :=
  Numeral.twoPlaces v.major ++ oneDigit v.minor ++ oneDigit v.patch

/-- The code with a zero in the place of the patch. -/
def majorCode (v : MacVersion) : Text :=
  Numeral.twoPlaces v.major ++ oneDigit v.minor ++ ("0" : Text)

/-- Minor and patch in two digits each. -/
def minorCode (v : MacVersion) : Text :=
  Numeral.twoPlaces v.minor ++ Numeral.twoPlaces v.patch

/-- The version as `10.9`. -/
def majorVersion (v : MacVersion) : Text :=
  Numeral.ofInt v.major ++ Version.dot :: Numeral.ofInt v.minor

end MacVersion

end HostFacts
