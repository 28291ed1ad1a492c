import HostFacts.Attempt
import HostFacts.Text.Lines

/-!
# The world around

Everything that an operation can see besides its arguments: the environment,
the record of the host, the files, and who has which home directory. It is a
value like any other; an operation reads it and never changes it.
-/

namespace HostFacts

/-- What the host says about itself. -/
structure HostRecord where
  system : Text
  release : Text
  version : Text
  /-- The product version of macOS, empty elsewhere. -/
  macVersion : Text
  machine : Text
  /-- The name of the language runtime, its version, and the line it announces itself with. -/
  runtimeName : Text
  runtimeVersion : Text
  runtimeBanner : Text
  /-- The size of a pointer in bytes, if it can be told. -/
  pointerSize : Option Int
  /-- The content of the kernel's version file, if there is one. -/
  kernelVersion : Option (List UInt8)
deriving Repr, DecidableEq

/-- The home directories that the system has on record. -/
structure Accounts where
  /-- That of the user who runs the program. -/
  own : Option Text
  byName : Dictionary Text
deriving Repr, DecidableEq

structure World where
  env : Environment
  host : HostRecord
  files : FileTree
  accounts : Accounts
deriving Repr, DecidableEq

namespace World

/-! ## Home directories -/

def tilde : CodePoint := .scalar '~'

/-- The text without slashes at its end; a slash for one of nothing else. -/
def withoutTrailingSlashes (t : Text) : Text :=
  let stripped := (t.reverse.dropWhile (· == Path.slash)).reverse
  if stripped.isEmpty then [Path.slash] else stripped

/-- The home directory that a part `~` or `~name` stands for. `HOME` counts before the record
of the user. A directory that itself starts with a tilde is none. -/
def homeFor (w : World) (name : Text) : Except Failure Path := do
  if name.contains (.scalar '\x00') then throw .embeddedNul
  let recorded :=
    if name.isEmpty then (w.env.get? "HOME" <|> w.accounts.own)
    else w.accounts.byName.get? name
  match recorded.map withoutTrailingSlashes with
  | none => throw .homeUnknown
  | some home => if home.head? = some tilde then throw .homeUnknown else return .ofText home

/-- The path with a tilde at its start replaced by the home directory. -/
def expandHome (w : World) (p : Path) : Except Failure Path :=
  match p.root, p.parts with
  | .relative, (.scalar '~' :: name) :: parts => do
    let home ← w.homeFor name
    return { home with parts := home.parts ++ parts }
  | _, _ => .ok p

def home (w : World) : Except Failure Path := w.homeFor []

/-! ## Files -/

/-- The text of a file in UTF-8, its line ends made uniform. -/
def readText (w : World) (p : Path) : Except Failure Text := do
  if p.hasNul then throw .embeddedNul
  let bytes ← (w.files.content p).mapError (.file · p)
  let text ← (Utf8.decode bytes).mapError .undecodable
  return text.foldNewlines

theorem readText_eq (w : World) (p : Path) :
    w.readText p
      = if p.hasNul then .error .embeddedNul
        else
          match w.files.content p with
          | .error fault => .error (.file fault p)
          | .ok bytes =>
            match Utf8.decode bytes with
            | .error fault => .error (.undecodable fault)
            | .ok t => .ok t.foldNewlines := by
  unfold readText
  by_cases hnul : p.hasNul
  · rw [if_pos hnul, if_pos hnul]
    rfl
  · rw [if_neg hnul, if_neg hnul]
    cases w.files.content p with
    | error fault => rfl
    | ok bytes =>
        show ((Utf8.decode bytes).mapError Failure.undecodable >>= fun t => pure t.foldNewlines)
          = match Utf8.decode bytes with
            | .error fault => .error (.undecodable fault)
            | .ok t => .ok t.foldNewlines
        cases Utf8.decode bytes with
        | error fault => rfl
        | ok t => rfl

def fileExists (w : World) (p : Path) : Except Failure Bool :=
  (w.files.contains p).mapError (.file · p)

/-- Whether a path leads to a file that may be executed. -/
def isExecutable (w : World) (p : Path) : Except Failure Bool :=
  (w.files.isExecutable p).mapError (.file · p)

end World

end HostFacts
