import HostFacts.Text.Quoted

/-!
# Arguments of the command

Arguments are read from left to right into items. An option has a long name
behind two hyphens, which may carry its value behind an equals sign, and
perhaps a letter, which may stand in a cluster behind one hyphen. An option
that takes a value takes what is left of its own argument or else the whole
next one, whatever that looks like. Two hyphens alone end the options. The
first argument that cannot be read is the error.
-/

namespace HostFacts.Command

/-- An option that is on when it is given. -/
inductive Switch
  | debug
  | json
  | release
  | version
  | help
deriving Repr, DecidableEq

/-- An option that takes a value. -/
inductive Setting
  | settingsFile
  | osAtLeast
  | runtimeAtLeast
deriving Repr, DecidableEq

inductive Flag
  | switch (s : Switch)
  | setting (s : Setting)
deriving Repr, DecidableEq

namespace Flag

def longNames : List (Text × Flag) :=
  [("--debug", switch .debug),
   ("--settings", setting .settingsFile),
   ("--json", switch .json),
   ("--release", switch .release),
   ("--os-at-least", setting .osAtLeast),
   ("--runtime-at-least", setting .runtimeAtLeast),
   ("--version", switch .version),
   ("--help", switch .help)]

def ofLongName? (name : Text) : Option Flag := longNames.lookup name

def ofLetter? : CodePoint → Option Flag
  | .scalar 'd' => some (switch .debug)
  | .scalar 's' => some (setting .settingsFile)
  | _ => none

end Flag

inductive Item
  | switch (s : Switch)
  | setting (s : Setting) (value : Text)
  | operand (t : Text)
deriving Repr, DecidableEq

/-- Why the arguments make no request. Options go by the name that was written. -/
inductive UsageError
  | noSuchOption (name : Text)
  | missingValue (name : Text)
  | unwantedValue (name : Text)
  | unreadableSettings (file : Text)
  | extraArguments (arguments : List Text)
deriving Repr, DecidableEq

/-! ## One argument -/

/-- What an argument says, and the option by its written name if its value is still to come. -/
structure Reading where
  items : List Item
  pending : Option (Setting × Text) := none
deriving Repr, DecidableEq

def hyphen : CodePoint := .scalar '-'

def hyphens : Text := [hyphen, hyphen]

/-- Reads the letters of a cluster. -/
def readCluster : Text → Except UsageError Reading
  | [] => .ok ⟨[], none⟩
  | letter :: rest =>
    match Flag.ofLetter? letter with
    | none => .error (.noSuchOption [hyphen, letter])
    | some (.switch s) =>
      (readCluster rest).map fun reading => { reading with items := .switch s :: reading.items }
    | some (.setting s) =>
      if rest.isEmpty then .ok ⟨[], some (s, [hyphen, letter])⟩
      else .ok ⟨[.setting s rest], none⟩

def readOption (argument : Text) : Except UsageError Reading :=
  let (name, value) := Text.cut (.scalar '=') argument
  match Flag.ofLongName? name, value with
  | some (.switch s), none => .ok ⟨[.switch s], none⟩
  | some (.switch _), some _ => .error (.unwantedValue name)
  | some (.setting s), some value => .ok ⟨[.setting s value], none⟩
  | some (.setting s), none => .ok ⟨[], some (s, name)⟩
  | none, _ =>
    if hyphens.isPrefixOf argument then .error (.noSuchOption name)
    else readCluster (argument.drop 1)

/-- A hyphen alone is no option. -/
def isOption (argument : Text) : Bool :=
  argument.head? = some hyphen && 1 < argument.length

def readArgument (argument : Text) : Except UsageError Reading :=
  if isOption argument then readOption argument else .ok ⟨[.operand argument], none⟩

/-! ## All arguments -/

def readArguments : List Text → Except UsageError (List Item)
  | [] => .ok []
  | argument :: arguments =>
    if argument = hyphens then .ok (arguments.map .operand)
    else
      match readArgument argument with
      | .error e => .error e
      | .ok ⟨items, none⟩ => (readArguments arguments).map (items ++ ·)
      | .ok ⟨items, some (s, name)⟩ =>
        match arguments with
        | [] => .error (.missingValue name)
        | value :: arguments =>
          (readArguments arguments).map fun rest => items ++ .setting s value :: rest

end HostFacts.Command
