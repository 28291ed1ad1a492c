import HostFacts.Command.Arguments

/-!
# Requests

What the arguments of the command ask for. Help and version go before all
else, the one that is asked for first before the other, whatever else the
arguments hold as long as they can be read.
-/

namespace HostFacts.Command

structure Options where
  debug : Bool
  settingsFile : Option Text
  json : Bool
  release : Bool
  /-- The versions to be reached, in the order in which they were given. -/
  osVersions : List Text
  runtimeVersions : List Text
  operands : List Text
deriving Repr, DecidableEq

inductive Request
  | help
  | version
  | report (options : Options)
deriving Repr, DecidableEq

/-- The values given for an option. -/
def valuesOf (items : List Item) (s : Setting) : List Text :=
  items.filterMap fun
    | .setting s' value => if s' = s then some value else none
    | _ => none

/-- Of several settings files the last one counts. -/
def Options.ofItems (items : List Item) : Options where
  debug := items.contains (.switch .debug)
  settingsFile := (valuesOf items .settingsFile).getLast?
  json := items.contains (.switch .json)
  release := items.contains (.switch .release)
  osVersions := valuesOf items .osAtLeast
  runtimeVersions := valuesOf items .runtimeAtLeast
  operands := items.filterMap fun
    | .operand t => some t
    | _ => none

/-- What an item asks for ahead of all else. -/
def Item.request? : Item → Option Request
  | .switch .help => some .help
  | .switch .version => some .version
  | _ => none

def Request.ofItems (items : List Item) : Request :=
  (items.findSome? Item.request?).getD (.report (.ofItems items))

def Request.ofArguments (arguments : List Text) : Except UsageError Request :=
  (readArguments arguments).map Request.ofItems

end HostFacts.Command
