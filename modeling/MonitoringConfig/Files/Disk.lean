import MonitoringConfig.Files.Path
/-!
# Files and directories

A tree of directories and files, and a place in it at which relative paths start. Permissions are
kept but bar nobody.

Actions that go wrong keep what they did before: directories on the way to a file stay there even
if the file cannot be written.
-/

namespace MonitoringConfig

/-- A file or a directory. -/
inductive FileTree where
  | file (mode : Nat) (data : List UInt8)
  | directory (entries : List (String × FileTree))
  deriving Repr, Inhabited

namespace FileTree

/-- Whether something is a directory. -/
def isDirectory : FileTree → Bool
  | directory _ => true
  | file .. => false

/-- What lies in a tree under a row of names. -/
def find? : FileTree → List String → Option FileTree
  | t, [] => some t
  | directory entries, name :: names => (entries.lookup name).bind fun t => t.find? names
  | file .., _ :: _ => none

/-- The entries of a directory with another one. -/
def putEntry (entries : List (String × FileTree)) (name : String) (t : FileTree) :
    List (String × FileTree) :=
  if (entries.lookup name).isSome then
    entries.map fun (other, u) => if other == name then (name, t) else (other, u)
  else entries ++ [(name, t)]

/-- Puts something under a row of names; all directories on the way must be there. -/
def put (new : FileTree) : List String → FileTree → FileTree
  | [], _ => new
  | name :: names, directory entries =>
    match entries.lookup name with
    | some t => directory (putEntry entries name (put new names t))
    | none => if names.isEmpty then directory (putEntry entries name new) else directory entries
  | _ :: _, file mode data => file mode data

end FileTree

/-- Why an action on files goes wrong. -/
inductive Trouble where
  | missing | alreadyThere | notDirectory | isDirectory | nameTooLong
  /-- A name holds the character that no name can hold. -/
  | badName
  deriving DecidableEq, Repr, Inhabited

/-- The wording for what goes wrong. -/
def Trouble.text : Trouble → String
  | missing => "No such file or directory"
  | alreadyThere => "File exists"
  | notDirectory => "Not a directory"
  | isDirectory => "Is a directory"
  | nameTooLong => "File name too long"
  | badName => ""

/-- A tree of files, with the names that lead to where relative paths start. -/
structure Disk where
  tree : FileTree
  start : List String
  deriving Repr, Inhabited

/-- An action on files, which keeps what it did when it goes wrong. -/
abbrev DiskAction := ExceptT Trouble (StateM Disk)

namespace Disk

/-- Nothing but an empty directory, in which relative paths start. -/
def empty : Disk :=
  { tree := .directory [("work", .directory [])], start := ["work"] }

/-- The names that a path leads to, one after the other from a directory on. What it leads to need
not be there, but everything on the way. -/
def walk (tree : FileTree) (here : List String) : List String → Except Trouble (List String)
  | [] => .ok here
  | name :: names =>
    match tree.find? here with
    | none => .error .missing
    | some (.file ..) => .error .notDirectory
    | some (.directory _) =>
      if name == ".." then walk tree here.dropLast names
      else if 255 < name.utf8ByteSize then .error .nameTooLong
      else walk tree (here ++ [name]) names

/-- The names that a path leads to. -/
def locate (p : FilePath) : DiskAction (List String) := do
  if p.parts.any fun name => name.toList.contains '\x00' then throw .badName
  if 4096 ≤ p.text.utf8ByteSize then throw .nameTooLong
  let d ← get
  match walk d.tree (if p.root.isEmpty then d.start else []) p.parts with
  | .ok names => return names
  | .error t => throw t

/-- What lies under a path. -/
def find (p : FilePath) : DiskAction FileTree := do
  let names ← locate p
  match (← get).tree.find? names with
  | some t => return t
  | none => throw .missing

/-- Whether a path leads to a directory; one that leads nowhere does not. -/
def leadsToDirectory (p : FilePath) : DiskAction Bool :=
  tryCatch ((find p).map (·.isDirectory)) fun t =>
    if t == .missing || t == .notDirectory then return false else throw t

/-- Puts something under a row of names. -/
def put (names : List String) (t : FileTree) : DiskAction Unit :=
  modify fun d => { d with tree := FileTree.put t names d.tree }

/-- Makes a directory. -/
def makeDirectory (p : FilePath) : DiskAction Unit := do
  let names ← locate p
  if ((← get).tree.find? names).isSome then throw .alreadyThere
  put names (.directory [])

/-- Accepts that a directory cannot be made if it is there already. -/
def orThere (p : FilePath) (t : Trouble) : DiskAction Unit := do
  if t == .missing || t == .badName then throw t
  if !(← leadsToDirectory p) then throw t

/-- Makes the directories of a path that are not there, given its names from the last to the
first. -/
def makeDirectoriesOf (root : String) : List String → DiskAction Unit
  | [] => tryCatch (makeDirectory ⟨root, []⟩) (orThere ⟨root, []⟩)
  | name :: outer =>
    let p : FilePath := ⟨root, (name :: outer).reverse⟩
    tryCatch (makeDirectory p) fun t => do
      if t == .missing then
        makeDirectoriesOf root outer
        tryCatch (makeDirectory p) (orThere p)
      else orThere p t

/-- Makes the directories of a path that are not there. -/
def makeDirectories (p : FilePath) : DiskAction Unit :=
  makeDirectoriesOf p.root p.parts.reverse

/-- The permissions that new files have. -/
def defaultMode : Nat := 0o644

/-- Writes a file; one that is there already keeps its permissions. -/
def write (p : FilePath) (data : List UInt8) : DiskAction Unit := do
  let names ← locate p
  match (← get).tree.find? names with
  | some (.directory _) => throw .isDirectory
  | some (.file mode _) => put names (.file mode data)
  | none => put names (.file defaultMode data)

/-- Changes the permissions of a file. -/
def setMode (p : FilePath) (mode : Nat) : DiskAction Unit := do
  let names ← locate p
  match (← get).tree.find? names with
  | some (.file _ data) => put names (.file mode data)
  | some (.directory _) => pure ()
  | none => throw .missing

/-- Reads a file. -/
def read (p : FilePath) : DiskAction (List UInt8) := do
  match ← find p with
  | .file _ data => return data
  | .directory _ => throw .isDirectory

end Disk

end MonitoringConfig
