/-!
# Paths

A path is a row of names. Empty names and single dots mean nothing and are left out, double dots
stay, since what they lead to depends on the directories that are there.

* `FilePath.parse` reads a path, `FilePath.text` writes it.
-/

namespace MonitoringConfig

/-- A path. -/
structure FilePath where
  /-- The slashes at the front, if the path starts at the root of all directories. -/
  root : String := ""
  parts : List String := []
  deriving DecidableEq, Repr, Inhabited

namespace FilePath

/-- The names of a text between slashes, some of them empty. -/
def split : List Char → List (List Char)
  | [] => [[]]
  | c :: cs =>
    if c == '/' then [] :: split cs
    else match split cs with
      | [] => [[c]]
      | name :: names => (c :: name) :: names

/-- The slashes at the front of a path: exactly two are kept, more count as one. -/
def rootOf (cs : List Char) : String :=
  match (cs.takeWhile (· == '/')).length with
  | 0 => ""
  | 2 => "//"
  | _ => "/"

/-- Reads a path. -/
def parse (text : String) : FilePath :=
  let cs := text.toList
  let names := (split cs).map String.ofList
  { root := rootOf cs, parts := names.filter fun name => name != "" && name != "." }

/-- The text of a path; that of no names at all is a dot. -/
def text (p : FilePath) : String :=
  let names := "/".intercalate p.parts
  if p.root.isEmpty && p.parts.isEmpty then "." else p.root ++ names

/-- The path without its last name. -/
def parent (p : FilePath) : FilePath :=
  { p with parts := p.parts.dropLast }

end FilePath

end MonitoringConfig
