import HostFacts.Json.Basic
import HostFacts.Text.Blank
import HostFacts.Text.Numeral

/-!
# Checking records

A record is checked field by field, and every field that fails is reported,
in the order of the fields. A `Verdict` is a checked value or the list of what
is wrong; its sequencing keeps the faults of both sides.

The checks of single values are strict about text, which nothing else is
taken for, and lenient about truth values, for which there are a few common
spellings.
-/

namespace HostFacts

inductive Violation.Kind
  | missing
  | notText
  | tooShort
  | notUnicode
  | notTruthValue
  | unknownTruthValue
  | notDataModel
  | blankName
  | notRecord (model : Text)
  | frozen
deriving Repr, DecidableEq

/-- What is wrong with a field, given by the names on the way to it. -/
structure Violation where
  field : List Text
  kind : Violation.Kind
deriving Repr, DecidableEq

inductive Verdict (α : Type)
  | accept (value : α)
  | reject (violations : List Violation)
deriving Repr, DecidableEq

namespace Verdict

variable {α β : Type}

instance : Functor Verdict where
  map f
    | accept a => accept (f a)
    | reject faults => reject faults

/-- Two verdicts as one: the faults of both. -/
instance : Applicative Verdict where
  pure := accept
  seq f a :=
    match f, a () with
    | accept f, accept a => accept (f a)
    | accept _, reject faults => reject faults
    | reject faults, accept _ => reject faults
    | reject faults, reject more => reject (faults ++ more)

def fail (kind : Violation.Kind) : Verdict α := reject [⟨[], kind⟩]

/-- The verdict on a field of this name. -/
def under (name : Text) : Verdict α → Verdict α
  | accept a => accept a
  | reject faults => reject (faults.map fun v => { v with field := name :: v.field })

/-- Checks the member of this name; without one the verdict is `absent`. -/
def member (members : Dictionary Json) (name : Text) (absent : Verdict α)
    (check : Json → Verdict α) : Verdict α :=
  under name <|
    match members.get? name with
    | some j => check j
    | none => absent

def toExcept : Verdict α → Except (List Violation) α
  | accept a => .ok a
  | reject faults => .error faults

end Verdict

/-! ## Checks of single values -/

namespace Verdict

def text : Json → Verdict Text
  | .str t => .accept t
  | _ => .fail .notText

/-- A text of at least one character that has a UTF-8 form. -/
def pathText : Json → Verdict Text
  | .str t =>
    if !t.isWellFormed then .fail .notUnicode
    else if t.isEmpty then .fail .tooShort
    else .accept t
  | _ => .fail .notText

/-- A text with something in it besides white space. -/
def nameText : Json → Verdict Text
  | .str t => if t.isBlank then .fail .blankName else .accept t
  | _ => .fail .notText

/-- The spellings of a truth value in text, apart from the case of ASCII letters. -/
def truthSpellings : List (Text × Bool) :=
  [("0", false), ("off", false), ("f", false), ("false", false), ("n", false), ("no", false),
   ("1", true), ("on", true), ("t", true), ("true", true), ("y", true), ("yes", true)]

/-- The text with its capitals of ASCII made small. -/
def lowerCapitals (t : Text) : Text :=
  t.map fun
    | .scalar c => .scalar c.toLower
    | c => c

/-- Two to the power of 63, the first whole number that has no 64-bit form. -/
def wordLimit : Int := 0x8000000000000000

/-- Whether a double is a whole number between the ends of the 64-bit range. -/
def isWord (x : Float) : Bool := x.floor == x && -9223372036854775808 < x && x < 9223372036854775808

/-- A truth value, or 0, 1 or a spelling of one. Any other text and any other whole number of 64
bits, a double among them, is of a fitting kind and has no meaning; all else is of another kind. -/
def truthValue : Json → Verdict Bool
  | .bool b => .accept b
  | .int i =>
    if i = 0 then .accept false
    else if i = 1 then .accept true
    else if -wordLimit ≤ i ∧ i < wordLimit then .fail .unknownTruthValue
    else .fail .notTruthValue
  | .float x =>
    if x == 0 then .accept false
    else if x == 1 then .accept true
    else if isWord x then .fail .unknownTruthValue
    else .fail .notTruthValue
  | .str t =>
    if !t.isWellFormed then .fail .notUnicode
    else
      match Dictionary.get? truthSpellings (lowerCapitals t) with
      | some b => .accept b
      | none => .fail .unknownTruthValue
  | _ => .fail .notTruthValue

/-- The check of a value that may be null. -/
def optional {α : Type} (check : Json → Verdict α) : Json → Verdict (Option α)
  | .null => .accept none
  | j => some <$> check j

end Verdict

/-! ## Wording -/

def Violation.Kind.code : Violation.Kind → Text
  | missing => "missing"
  | notText => "string_type"
  | tooShort => "string_too_short"
  | notUnicode => "string_unicode"
  | notTruthValue => "bool_type"
  | unknownTruthValue => "bool_parsing"
  | notDataModel => "literal_error"
  | blankName => "value_error"
  | notRecord _ => "model_type"
  | frozen => "frozen_instance"

def Violation.Kind.message : Violation.Kind → Text
  | missing => "Field required"
  | notText => "Input should be a valid string"
  | tooShort => "String should have at least 1 character"
  | notUnicode =>
    "Input should be a valid string, unable to parse raw data as a unicode string"
  | notTruthValue => "Input should be a valid boolean"
  | unknownTruthValue => "Input should be a valid boolean, unable to interpret input"
  | notDataModel => "Input should be '32' or '64'"
  | blankName => "Value error, Overridden OS facts must not be blank"
  | notRecord model => "Input should be a valid dictionary or instance of " ++ model
  | frozen => "Instance is frozen"

def Violation.message (v : Violation) : Text :=
  (if v.field.isEmpty then ("(root)" : Text) else Text.join "." v.field) ++ ": " ++
    v.kind.code ++ ": " ++ v.kind.message

end HostFacts
