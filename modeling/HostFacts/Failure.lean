import HostFacts.FileTree
import HostFacts.Json.Reader
import HostFacts.Text.Quoted
import HostFacts.Verdict

/-!
# Failures

Why an operation has no answer, and the wording of each cause.
-/

namespace HostFacts

inductive Failure
  /-- A numeral has too many digits to be read. -/
  | numeral (error : Numeral.TooLong)
  /-- A path to be opened holds U+0000. -/
  | embeddedNul
  | undecodable (fault : Utf8.Fault)
  /-- The text to be printed holds `count` surrogates from `start` on, `first` the first one. -/
  | unencodable (first : CodePoint) (start count : Nat)
  | homeUnknown
  | unknownRelease (name : Text)
  | file (fault : FileFault) (path : Path)
  | json (refusal : Json.Refusal)
  | invalid (model : Text) (violations : List Violation)
deriving Repr, DecidableEq

namespace Failure

/-- The places `start` and those behind it, `count` of them in all. -/
def span (singular plural : Text) (start count : Nat) : Text :=
  if count = 1 then singular ++ " in position " ++ Numeral.ofNat start
  else
    plural ++ " in position " ++ Numeral.ofNat start ++ "-" ++ Numeral.ofNat (start + count - 1)

/-- The cause in words, on one line. Of the fields of a record only their number is told. -/
def message : Failure → Text
  | numeral error => error.message
  | embeddedNul => "embedded null byte"
  | undecodable fault =>
    "'utf-8' codec can't decode " ++
      span ("byte 0x" ++ hexDigits 2 fault.lead.toNat) "bytes" fault.start fault.count ++
      ": " ++ fault.reason.message
  | unencodable first start count =>
    "'utf-8' codec can't encode " ++
      span ("character '" ++ first.numericEscape ++ "'") "characters" start count ++
      ": surrogates not allowed"
  | homeUnknown => "Could not determine home directory."
  | unknownRelease name => name.quoted
  | file fault path =>
    "[Errno " ++ Numeral.ofNat fault.number ++ "] " ++ fault.message ++ ": " ++ path.text.quoted
  | json refusal => refusal.message
  | invalid model violations =>
    Numeral.ofNat violations.length ++
      (if violations.length = 1 then (" validation error for " : Text)
       else " validation errors for ") ++
      model

/-- The cause in words, with all that is wrong with the fields of a record. -/
def details : Failure → Text
  | invalid _ violations => Text.join "; " (violations.map Violation.message)
  | failure => failure.message

end Failure

end HostFacts
