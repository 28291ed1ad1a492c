import HostFacts.Dictionary

/-!
# Environment and debug messages

Operations report what they do in messages. Whether these are shown is for
the environment to say: they are if `HOSTINFO_DEBUG` is set to anything but
the empty text. What an operation answers never depends on it.
-/

namespace HostFacts

/-! ## The environment -/

/-- The environment variables. -/
abbrev Environment := Dictionary Text

/-- The value of a variable, where the empty text counts as no value. -/
def Environment.nonEmpty? (env : Environment) (name : Text) : Option Text :=
  (env.get? name).filter (!·.isEmpty)

/-! ## Messages -/

inductive Level
  | info
  | warn
  | error
deriving Repr, DecidableEq

/-- The level of this name; any other name means the lowest one. -/
def Level.ofName (name : Text) : Level :=
  if name = "warn" then .warn else if name = "error" then .error else .info

structure Message where
  level : Level
  text : Text
deriving Repr, DecidableEq

def Message.line (m : Message) : Text :=
  match m.level with
  | .info => "[HostInfo] " ++ m.text
  | .warn => "[HostInfo] WARN: " ++ m.text
  | .error => "[HostInfo] ERROR: " ++ m.text

def debugVariable : Text := "HOSTINFO_DEBUG"

def Environment.showsMessages (env : Environment) : Bool :=
  (env.nonEmpty? debugVariable).isSome

/-- The lines of the messages that are shown. -/
def Environment.shown (env : Environment) (messages : List Message) : List Text :=
  if env.showsMessages then messages.map Message.line else []

end HostFacts
