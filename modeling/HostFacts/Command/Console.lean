import HostFacts.Failure

/-!
# Writing to the console

Text is written in UTF-8 and line by line. Control sequences, which would only
steer a terminal, are left out. A line with a surrogate has no UTF-8 form and cannot
be written; the lines before it are.
-/

namespace HostFacts.Command

/-! ## Control sequences -/

/-- The characters that a control sequence is made of behind its introducer: parameters first,
then intermediates, and one final character. No character is of two of these kinds. -/
def isParameter (c : CodePoint) : Bool := c.inRanges [(0x30, 0x3F)]

def isIntermediate (c : CodePoint) : Bool := c.inRanges [(0x20, 0x2F)]

def isFinal (c : CodePoint) : Bool := c.inRanges [(0x40, 0x7E)]

/-- The length of the control sequence at the start of a text. It is introduced by an escape and
an opening bracket. -/
def sequenceLength? : Text → Option Nat
  | .scalar '\x1B' :: .scalar '[' :: t =>
    let parameters := t.takeWhile isParameter
    let rest := t.dropWhile isParameter
    let intermediates := rest.takeWhile isIntermediate
    match rest.dropWhile isIntermediate with
    | c :: _ => if isFinal c then some (2 + parameters.length + intermediates.length + 1) else none
    | [] => none
  | _ => none

/-- Leaves out the first `skip` characters, and the sequences among the others. -/
def dropSequences : (skip : Nat) → Text → Text
  | _, [] => []
  | skip + 1, _ :: t => dropSequences skip t
  | 0, c :: t =>
    match sequenceLength? (c :: t) with
    | some (n + 1) => dropSequences n t
    | _ => c :: dropSequences 0 t

/-- The text without control sequences. -/
def plain (t : Text) : Text := dropSequences 0 t

/-! ## Lines -/

/-- Why a text cannot be written: the first run of surrogates in it. -/
def unwritable? (t : Text) : Option Failure :=
  match t.dropWhile fun c => !c.isSurrogate with
  | [] => none
  | c :: rest =>
    let start := (t.takeWhile fun c => !c.isSurrogate).length
    some (.unencodable c start (1 + (rest.takeWhile CodePoint.isSurrogate).length))

/-- What is written of lines, and why the writing stopped if it did. -/
def writeLines : List Text → Text × Except Failure Unit
  | [] => ([], .ok ())
  | line :: rest =>
    let line := plain line ++ ("\n" : Text)
    match unwritable? line with
    | some failure => ([], .error failure)
    | none =>
      let (written, ending) := writeLines rest
      (line ++ written, ending)

end HostFacts.Command
