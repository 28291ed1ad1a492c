import HostFacts.Text.CodePoint

/-!
# Named releases

The releases of Windows and macOS that go by a name, in the order in which
they came out, with the version from which on a system is that release.
-/

namespace HostFacts

/-! ## Windows -/

inductive WindowsRelease
  | win2k
  | winxp
  | vista
  | win7
  | win8
  | win10
deriving Repr, DecidableEq

namespace WindowsRelease

def all : List WindowsRelease := [win2k, winxp, vista, win7, win8, win10]

def name : WindowsRelease → Text
  | win2k => "win2k"
  | winxp => "winxp"
  | vista => "win_vista"
  | win7 => "win7"
  | win8 => "win8"
  | win10 => "win10"

def version : WindowsRelease → Text
  | win2k => "5.0"
  | winxp => "5.1"
  | vista => "6.0"
  | win7 => "6.1"
  | win8 => "6.2"
  | win10 => "10.0"

def ofName? (name : Text) : Option WindowsRelease := all.find? (·.name = name)

end WindowsRelease

/-! ## macOS -/

inductive MacRelease
  | tiger
  | leopard
  | snowLeopard
  | lion
  | mountainLion
  | mavericks
  | yosemite
  | elCapitan
  | sierra
  | highSierra
  | mojave
  | catalina
  | bigSur
  | monterey
  | ventura
  | sonoma
  | sequoia
deriving Repr, DecidableEq

namespace MacRelease

def all : List MacRelease :=
  [tiger, leopard, snowLeopard, lion, mountainLion, mavericks, yosemite, elCapitan, sierra,
   highSierra, mojave, catalina, bigSur, monterey, ventura, sonoma, sequoia]

def name : MacRelease → Text
  | tiger => "tiger"
  | leopard => "leopard"
  | snowLeopard => "snow_leopard"
  | lion => "lion"
  | mountainLion => "mountain_lion"
  | mavericks => "mavericks"
  | yosemite => "yosemite"
  | elCapitan => "el_capitan"
  | sierra => "sierra"
  | highSierra => "high_sierra"
  | mojave => "mojave"
  | catalina => "catalina"
  | bigSur => "big_sur"
  | monterey => "monterey"
  | ventura => "ventura"
  | sonoma => "sonoma"
  | sequoia => "sequoia"

def version : MacRelease → Text
  | tiger => "10.4"
  | leopard => "10.5"
  | snowLeopard => "10.6"
  | lion => "10.7"
  | mountainLion => "10.8"
  | mavericks => "10.9"
  | yosemite => "10.10"
  | elCapitan => "10.11"
  | sierra => "10.12"
  | highSierra => "10.13"
  | mojave => "10.14"
  | catalina => "10.15"
  | bigSur => "11"
  | monterey => "12"
  | ventura => "13"
  | sonoma => "14"
  | sequoia => "15"

def ofName? (name : Text) : Option MacRelease := all.find? (·.name = name)

end MacRelease

end HostFacts
