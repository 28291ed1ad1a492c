import HostFacts.Path
import HostFacts.Text.Utf8

/-!
# File trees

The files, directories and links that a program can see, by their location:
the names on the way from the root. A file or a directory may be one that the
program is not allowed to read, and a directory one in which it may not look for
names. A path is followed from the working directory or the root, name by name,
through the links that it meets. A name has at most 255 bytes, a path fewer than
4096, and 40 links are followed at most, so that links in a circle come to an
end.
-/

namespace HostFacts

abbrev Location := List Text

inductive Entry
  | file (content : List UInt8) (executable : Bool) (readable : Bool := true)
  | directory (searchable : Bool := true) (readable : Bool := true)
  | link (target : Text)
deriving Repr, DecidableEq

def Entry.isReadable : Entry → Bool
  | file _ _ readable | directory _ readable => readable
  | link _ => true

structure FileTree where
  /-- What is at a location, the first row of a location counts. The root is always there, and
  open to all. -/
  entries : List (Location × Entry)
  workingDirectory : Location
deriving Repr, DecidableEq

/-- Why a path leads nowhere, or not to a file. -/
inductive FileFault
  | notFound
  | permissionDenied
  | notADirectory
  | isADirectory
  | nameTooLong
  | tooManyLinks
deriving Repr, DecidableEq

/-- A fault that means there is nothing. -/
def FileFault.meansAbsent : FileFault → Bool
  | notFound | notADirectory | tooManyLinks => true
  | permissionDenied | isADirectory | nameTooLong => false

def FileFault.number : FileFault → Nat
  | notFound => 2
  | permissionDenied => 13
  | notADirectory => 20
  | isADirectory => 21
  | nameTooLong => 36
  | tooManyLinks => 40

def FileFault.message : FileFault → Text
  | notFound => "No such file or directory"
  | permissionDenied => "Permission denied"
  | notADirectory => "Not a directory"
  | isADirectory => "Is a directory"
  | nameTooLong => "File name too long"
  | tooManyLinks => "Too many levels of symbolic links"

namespace FileTree

def maxNameBytes : Nat := 255

def maxPathBytes : Nat := 4095

def maxLinks : Nat := 40

/-- The bytes that the system gets for a text. A byte that is part of no character stands in the
text as one of U+DC80 to U+DCFF. -/
def bytesOf (t : Text) : List UInt8 :=
  t.flatMap fun c =>
    if c.inRanges [(0xDC80, 0xDCFF)] then [UInt8.ofNat (c.code - 0xDC00)]
    else Utf8.encodeCode c.code

def entryAt? (tree : FileTree) (location : Location) : Option Entry :=
  if location.isEmpty then some .directory else tree.entries.lookup location

/-! ## Following paths -/

def dot : Text := [.scalar '.']

def dotDot : Text := [.scalar '.', .scalar '.']

/-- The names that a link leads on with. A slash at the end, which asks for a directory but looks
for nothing in it, is an empty name. -/
def linkNames (target : Text) : List Text :=
  (Text.split Path.slash target).filter (!·.isEmpty) ++
    (if target.getLast? = some Path.slash then [[]] else [])

/-- Where a link in the directory `here` starts from. -/
def linkStart (here : Location) (target : Text) : Location :=
  if target.head? = some Path.slash then [] else here

/-- Follows names from `here` on. At a link `onward` takes over, with the place where the link
starts and all the names that are left. -/
def followNames (tree : FileTree) (onward : Location → List Text → Except FileFault Location)
    (here : Location) : List Text → Except FileFault Location
  | [] => .ok here
  | name :: names =>
    match tree.entryAt? here with
    | none => .error .notFound
    | some (.file _ _ _) | some (.link _) => .error .notADirectory
    | some (.directory searchable _) =>
      if name = [] then followNames tree onward here names
      else if searchable = false then .error .permissionDenied
      else if name = dot then followNames tree onward here names
      else if name = dotDot then followNames tree onward here.dropLast names
      else if maxNameBytes < (bytesOf name).length then .error .nameTooLong
      else
        match tree.entryAt? (here ++ [name]) with
        | none => .error .notFound
        | some (.link target) => onward (linkStart here target) (linkNames target ++ names)
        | some _ => followNames tree onward (here ++ [name]) names

/-- Follows names through at most so many links. -/
def follow (tree : FileTree) : (links : Nat) → Location → List Text → Except FileFault Location
  | 0 => tree.followNames fun _ _ => .error .tooManyLinks
  | links + 1 => tree.followNames (tree.follow links)

def startOf (tree : FileTree) (p : Path) : Location :=
  match p.root with
  | .relative => tree.workingDirectory
  | .slash | .doubleSlash => []

/-- The location that a path leads to. -/
def locate (tree : FileTree) (p : Path) : Except FileFault Location :=
  if maxPathBytes < (bytesOf p.text).length then .error .nameTooLong
  else tree.follow maxLinks (tree.startOf p) p.parts

/-- What a path leads to. -/
def entry (tree : FileTree) (p : Path) : Except FileFault Entry := do
  match tree.entryAt? (← tree.locate p) with
  | some entry => return entry
  | none => .error .notFound

/-- What a path leads to if there is anything. A name that is too long is an error even so. -/
def entry? (tree : FileTree) (p : Path) : Except FileFault (Option Entry) :=
  if p.hasNul then .ok none
  else
    match tree.entry p with
    | .ok entry => .ok (some entry)
    | .error fault => if fault.meansAbsent then .ok none else .error fault

def contains (tree : FileTree) (p : Path) : Except FileFault Bool :=
  (tree.entry? p).map (·.isSome)

/-- Whether a path leads to a file that may be executed. -/
def isExecutable (tree : FileTree) (p : Path) : Except FileFault Bool :=
  (tree.entry? p).map fun
    | some (.file _ executable _) => executable
    | _ => false

/-- The bytes of the file that a path leads to. -/
def content (tree : FileTree) (p : Path) : Except FileFault (List UInt8) := do
  match ← tree.entry p with
  | .file content _ true => return content
  | .file _ _ false | .directory _ false => .error .permissionDenied
  | .directory _ true | .link _ => .error .isADirectory

/-- Whether a path, as it is written, leads to something that the program is not allowed to
read. A text with nothing in it leads nowhere. -/
def leadsToUnreadable (tree : FileTree) (t : Text) : Bool :=
  if t.isEmpty || maxPathBytes < (bytesOf t).length then false
  else
    match tree.follow maxLinks (linkStart tree.workingDirectory t) (linkNames t) with
    | .error _ => false
    | .ok there => (tree.entryAt? there).any (!·.isReadable)

/-!
## Changing the tree

Whoever changes the tree may look into all of its directories.
-/

def opened (tree : FileTree) : FileTree :=
  { tree with
    entries := tree.entries.map fun
      | (location, .directory _ _) => (location, .directory)
      | row => row }

/-- Puts an entry at a location in place of what was there. -/
def putAt (tree : FileTree) (location : Location) (entry : Entry) : FileTree :=
  { tree with
    entries := (location, entry) :: tree.entries.filter fun row => row.1 != location }

/-- Goes to a name, and makes it a directory if it leads nowhere. -/
def enter (state : FileTree × Location) (name : Text) : FileTree × Location :=
  let (tree, here) := state
  match tree.opened.follow maxLinks here [name] with
  | .ok there => (tree, there)
  | .error _ => (tree.putAt (here ++ [name]) .directory, here ++ [name])

/-- Where a file goes that is put under a name: to where the links from there lead, the last of
which may lead to a name that is still free. -/
def landing (tree : FileTree) : (links : Nat) → Location → Text → Location
  | 0, here, name => here ++ [name]
  | links + 1, here, name =>
    match tree.entryAt? (here ++ [name]) with
    | some (.link target) =>
      let names := linkNames target
      match names.getLast?, tree.opened.follow maxLinks (linkStart here target) names.dropLast with
      | some last, .ok parent => tree.landing links parent last
      | _, _ => here ++ [name]
    | _ => here ++ [name]

/-- Puts an entry at a path. The directories on the way are made as needed, a file is put where a
link leads, and a directory that is there already is only opened or closed. -/
def put (tree : FileTree) (p : Path) (entry : Entry) : FileTree :=
  match p.parts.getLast? with
  | none => tree
  | some name =>
    let (tree, parent) := p.parts.dropLast.foldl enter (tree, tree.startOf p)
    match entry, tree.opened.follow maxLinks parent [name] with
    | .file _ _ _, _ => tree.putAt (tree.landing maxLinks parent name) entry
    | .directory _ _, .ok there =>
      match tree.entryAt? there with
      | some (.directory _ _) => tree.putAt there entry
      | _ => tree
    | _, _ => tree.putAt (parent ++ [name]) entry

/-- The tree with nothing at a location or inside it. -/
def without (tree : FileTree) (location : Location) : FileTree :=
  { tree with entries := tree.entries.filter fun row => !location.isPrefixOf row.1 }

/-- Takes away what is at a path, with all that is inside. A link is taken away itself. -/
def remove (tree : FileTree) (p : Path) : FileTree :=
  match p.parts.getLast? with
  | none => tree
  | some name =>
    match tree.opened.follow maxLinks (tree.startOf p) p.parts.dropLast with
    | .error _ => tree
    | .ok parent => tree.without (parent ++ [name])

end FileTree

end HostFacts
