import HostFacts.Json.Token

/-!
# Reading JSON

The reader walks the text once and keeps, beside what it expects next, the
containers that it is inside of. One step per token (`State.step`) decides
what may follow what and what is missing otherwise; `scan` only finds the
tokens. Containers may be nested to a bounded depth, which also bounds the
work of everything that later recurses over the value.
-/

namespace HostFacts.Json

/-! ## One token at a time -/

/-- A container whose reading is under way: the items so far, backwards, or the members so far
and the name of the one being read. -/
inductive Frame
  | items (done : List Json)
  | members (done : Dictionary Json) (name : Text)

inductive Expecting
  | value
  | itemOrEnd
  | nameOrEnd
  | name (done : Dictionary Json)
  | colon (done : Dictionary Json) (name : Text)
  /-- A value is complete; what follows it depends on the container around. -/
  | behind (value : Json)

structure State where
  expecting : Expecting
  /-- The containers around, the innermost first. -/
  stack : List Frame

def State.start : State := ⟨.value, []⟩

/-- How many containers may be open at once. This is idealised: in a deep value it is the stack
that gives out, which the reader shares with its callers and with what recurses over the value
after it. One bound at the reader stands for all of that, and whatever has been read is within the
reach of what comes next. -/
def maxNesting : Nat := 480

namespace State

/-- A value begins. -/
def beginValue (stack : List Frame) (position : Nat) : Token → Except Fault State
  | .scalar value => value.map fun v => ⟨.behind v, stack⟩
  | .string content => content.map fun t => ⟨.behind (.str t), stack⟩
  | .beginArray =>
    if stack.length < maxNesting then .ok ⟨.itemOrEnd, stack⟩ else .error (.nesting false)
  | .beginObject =>
    if stack.length < maxNesting then .ok ⟨.nameOrEnd, stack⟩ else .error (.nesting true)
  | _ => .error (.syntaxAt .value position)

/-- The name of a member. -/
def readName (done : Dictionary Json) (stack : List Frame) (position : Nat) :
    Token → Except Fault State
  | .string content => content.map fun name => ⟨.colon done name, stack⟩
  | _ => .error (.syntaxAt .name position)

/-- What follows a complete value. -/
def readBehind (value : Json) (stack : List Frame) (position : Nat) (token : Token) :
    Except Fault State :=
  match stack, token with
  | [], _ => .error (.syntaxAt .extraData position)
  | .items done :: outer, .comma => .ok ⟨.value, .items (value :: done) :: outer⟩
  | .items done :: outer, .endArray => .ok ⟨.behind (.arr (value :: done).reverse), outer⟩
  | .members done name :: outer, .comma => .ok ⟨.name (done.put name value), outer⟩
  | .members done name :: outer, .endObject =>
    .ok ⟨.behind (.obj (done.put name value)), outer⟩
  | _, _ => .error (.syntaxAt .comma position)

/-- Takes the token that begins at `position`. -/
def step (s : State) (position : Nat) (token : Token) : Except Fault State :=
  match s.expecting, token with
  | .value, token => beginValue s.stack position token
  | .itemOrEnd, .endArray => .ok ⟨.behind (.arr []), s.stack⟩
  | .itemOrEnd, token => beginValue (.items [] :: s.stack) position token
  | .nameOrEnd, .endObject => .ok ⟨.behind (.obj []), s.stack⟩
  | .nameOrEnd, token => readName [] s.stack position token
  | .name done, token => readName done s.stack position token
  | .colon done name, .colon => .ok ⟨.value, .members done name :: s.stack⟩
  | .colon _ _, _ => .error (.syntaxAt .colon position)
  | .behind value, token => readBehind value s.stack position token

/-- The text is over. -/
def finish (s : State) (position : Nat) : Except Fault Json :=
  match s.expecting, s.stack with
  | .behind value, [] => .ok value
  | .behind _, _ => .error (.syntaxAt .comma position)
  | .value, _ | .itemOrEnd, _ => .error (.syntaxAt .value position)
  | .nameOrEnd, _ | .name _, _ => .error (.syntaxAt .name position)
  | .colon _ _, _ => .error (.syntaxAt .colon position)

end State

/-! ## The text -/

/-- The white space between tokens. -/
def isSpace (c : CodePoint) : Bool :=
  c = .scalar ' ' || c = .scalar '\t' || c = .scalar '\n' || c = .scalar '\r'

/-- Takes the tokens of the text that begins at `position`, of which the first `skip` characters
belong to a token that has been taken. -/
def scan (s : State) (position skip : Nat) : Text → Except Fault Json
  | [] => s.finish position
  | c :: t =>
    match skip with
    | skip + 1 => scan s (position + 1) skip t
    | 0 =>
      if isSpace c then scan s (position + 1) 0 t
      else
        let (token, width) := Token.read position (c :: t)
        match s.step position token with
        | .ok s => scan s (position + 1) (width - 1) t
        | .error fault => .error fault

/-- The value that a text writes down. -/
def readValue (t : Text) : Except Fault Json :=
  match t with
  | .scalar '\uFEFF' :: _ => .error (.syntaxAt .byteOrderMark 0)
  | _ => scan .start 0 0 t

/-! ## Refusals -/

/-- A place in a text: line and column from one, and the number of characters before it. -/
structure Place where
  line : Nat
  column : Nat
  offset : Nat
deriving Repr, DecidableEq

/-- The place behind `offset` characters. Only line feeds end lines. -/
def Place.after (t : Text) (offset : Nat) : Place :=
  let before := t.take offset
  let newline : CodePoint := .scalar '\n'
  ⟨before.count newline + 1, (before.reverse.takeWhile (· != newline)).length + 1, offset⟩

inductive Refusal
  | syntaxAt (reason : Reason) (place : Place)
  | numeral (error : Numeral.TooLong)
  | nesting (ofObject : Bool)
deriving Repr, DecidableEq

def read (t : Text) : Except Refusal Json :=
  match readValue t with
  | .ok value => .ok value
  | .error (.syntaxAt reason position) => .error (.syntaxAt reason (.after t position))
  | .error (.numeral error) => .error (.numeral error)
  | .error (.nesting ofObject) => .error (.nesting ofObject)

def Reason.message : Reason → Text
  | byteOrderMark => "Unexpected UTF-8 BOM (decode using utf-8-sig)"
  | value => "Expecting value"
  | name => "Expecting property name enclosed in double quotes"
  | colon => "Expecting ':' delimiter"
  | comma => "Expecting ',' delimiter"
  | extraData => "Extra data"
  | unterminatedString => "Unterminated string starting at"
  | controlCharacter => "Invalid control character at"
  | escape => "Invalid \\escape"
  | unicodeEscape => "Invalid \\uXXXX escape"

def Place.message (p : Place) : Text :=
  "line " ++ Numeral.ofNat p.line ++ " column " ++ Numeral.ofNat p.column ++
    " (char " ++ Numeral.ofNat p.offset ++ ")"

def Refusal.message : Refusal → Text
  | syntaxAt reason place => reason.message ++ ": " ++ place.message
  | numeral error => error.message
  | nesting false =>
    "maximum recursion depth exceeded while decoding a JSON array from a unicode string"
  | nesting true =>
    "maximum recursion depth exceeded while decoding a JSON object from a unicode string"

end HostFacts.Json
