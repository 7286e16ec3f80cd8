import MonitoringConfig.Document
import MonitoringConfig.Files.Disk
import MonitoringConfig.Reading
/-!
# Entities in files

Entities are written into files and read from them. Writing a file says so, or says that it could
not be written.

* `Value.save` writes a value, `Entity.load` reads an entity.
-/

namespace MonitoringConfig

open Logged

/-- The digits of a number to base eight, with the mark of that base. -/
def octalText (n : Nat) : String :=
  "0o" ++ String.ofList (Nat.toDigits 8 n)

/-- The failure of an action on files, where no reason is given. -/
def Trouble.toFailure : Trouble → Failure
  | missing => .plain .noSuchFile
  | alreadyThere => .plain .alreadyExists
  | notDirectory => .plain .notDirectory
  | isDirectory => .plain .isDirectory
  | nameTooLong => .plain .badName
  | badName => .plain .badValue

/-- The event of a file that was written. -/
def savedEvent (path : String) (size mode : Nat) : Event :=
  ⟨.info, "wrote_file",
    [("path", .text path), ("size", .int size), ("mode", .text (octalText mode))]⟩

/-- The event of a file that could not be written. -/
def notSavedEvent (path : String) : Event :=
  ⟨.error, "write_failed", [("path", .text path)]⟩

/-- Writes bytes into a file with the permissions of the settings, and makes the directories on the
way if the settings say so. -/
def Disk.save (p : FilePath) (data : List UInt8) (s : Settings) : DiskAction Unit := do
  if s.createParents then makeDirectories p.parent
  write p data
  setMode p s.fileMode.toNat

/-- What is said about an attempt to write a file. -/
def savedResult (p : FilePath) (size : Nat) (s : Settings) : Except Trouble Unit → Logged Unit
  | .ok () => say (savedEvent p.text size s.fileMode.toNat)
  | .error .badName => failPlain .badValue
  | .error t => do
    say (notSavedEvent p.text)
    fail (.fileWrite p.text t.text)

/-- Writes a value into a file. -/
def Value.save (v : Value) (p : FilePath) (s : Settings) (d : Disk) : Logged Unit × Disk :=
  let x := v.serialize s
  match x.result with
  | .error f => (⟨x.events, .error f⟩, d)
  | .ok written =>
    let data := written.toUTF8.toList
    let (r, d) := (Disk.save p data s).run d
    let saved := savedResult p data.length s r
    (⟨x.events ++ saved.events, saved.result⟩, d)

/-- Reads an entity from a file. -/
def Entity.load (kind : Kind) (p : FilePath) (d : Disk) : Logged Value :=
  match ((Disk.read p).run d).1 with
  | .ok data => Entity.parse kind (.bytes data)
  | .error t => fail t.toFailure

end MonitoringConfig
