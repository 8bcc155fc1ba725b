/-
# The command

Carries out what the command line says: prints, complains and writes files. A
picture is not shown, as there is no window to show it in.
-/
import Arbor.Chance.Twister
import Arbor.CommandLine.Grow
import Arbor.Export.Encoding

open Arbor

/-- A number for a tree without a seed. -/
def drawEntropy : IO Int := do
  let bytes ← IO.getRandomBytes 32
  pure (Int.ofNat (bytes.toList.foldl (fun n byte => n * 256 + byte.toNat) 0))

/-- The number and the wording of an error of the system. -/
def reasonOf : IO.Error → Nat × String
  | .alreadyExists _ code reason | .invalidArgument _ code reason
  | .permissionDenied _ code reason | .resourceExhausted _ code reason
  | .inappropriateType _ code reason | .noSuchThing _ code reason
  | .noFileOrDirectory _ code reason => (code.toNat, reason)
  | problem => (5, problem.toString)

/-- Why the system did not make a folder or a file at a path. -/
def denialOf (path : List Char) (problem : IO.Error) : Folder.Fault :=
  let (number, reason) := reasonOf problem
  let known := [Folder.Denial.fileExists, .notAFolder, .isAFolder, .nameTooLong].find? fun why =>
    why.number == number
  .denied (known.getD (.other number reason)) path

/-- Does something at a path, or tells why the system did not. A path with the
character NUL is not given to the system. -/
def attempt (path : List Char) (action : String → IO Unit) : IO (Except Folder.Fault Unit) := do
  if path.contains '\x00' then pure (.error .impossibleName)
  else
    match ← (action (String.ofList path)).toBaseIO with
    | .ok () => pure (.ok ())
    | .error problem => pure (.error (denialOf path problem))

/-- Makes the folders on the way from a path down along names. Below a file
that is on the way the system is asked once more, for what it says then. -/
def makeFolders (here : List Char) : List (List Char) → IO (Except Folder.Fault Unit)
  | [] => pure (.ok ())
  | name :: names => do
    let next := here ++ '/' :: name
    match ← attempt next fun path => IO.FS.createDirAll path with
    | .ok () => makeFolders next names
    | .error (.denied .fileExists path) =>
      match names with
      | [] => pure (.error (.denied .fileExists path))
      | beyond :: _ => attempt (next ++ '/' :: beyond) fun path => IO.FS.createDir path
    | .error fault => pure (.error fault)

/-- How many folders are missing on the way from a path down along names. -/
def countMissing (here : List Char) : List (List Char) → IO Nat
  | [] => pure 0
  | name :: names => do
    let next := here ++ '/' :: name
    match ← (IO.FS.realPath (String.ofList next)).toBaseIO with
    | .ok _ => countMissing next names
    | .error _ => pure (names.length + 1)

/-- The path of a file by the path of a folder and the names that lead to it
from there. -/
def wayTo (home path : List Char) : List Char × Place :=
  match Place.ofText path with
  | some place => (home, place)
  | none => ((path.reverse.dropWhile (· != '/')).reverse.dropLast,
      [(path.reverse.takeWhile (· != '/')).reverse])

/-- Writes files at places one after the other. -/
def writeFiles (home : List Char) : List (Place × ByteArray) → IO (Except Folder.Fault Unit)
  | [] => pure (.ok ())
  | (place, bytes) :: files => do
    match ← attempt (place.text home) fun path => IO.FS.writeBinFile path bytes with
    | .error fault => pure (.error fault)
    | .ok () => writeFiles home files

/-- Writes a mesh to a file, after the folders on the way to it. -/
def writeMesh (mesh : Mesh Float) (path : List Char) : IO (Except Export.Fault Unit) := do
  let (start, place) := wayTo (← IO.currentDir).toString.toList path
  let made ← if Folder.mostNew < (← countMissing start place.dropLast) then
      pure (.error .tooDeep)
    else makeFolders start place.dropLast
  match made with
  | .error fault => pure (.error (.folder fault))
  | .ok () =>
    match Format.ofText path with
    | none => pure (.error .unknownFormat)
    | some format =>
      let files := (Export.filesOf mesh format place).map fun (place, piece) =>
        (place, piece.encode mesh format)
      match ← writeFiles start files with
      | .error fault => pure (.error (.folder fault))
      | .ok () => pure ((Export.contents format mesh).map fun _ => ())

/-- Carries out a program and gives its exit code. -/
def perform : Program → IO UInt32
  | .stop .finished => pure 0
  | .stop (.exit code) => pure (UInt32.ofNat code)
  | .stop (.raised cause) => do
    IO.eprintln cause.message
    pure 1
  | .print line rest => do
    IO.println line
    perform rest
  | .complain line rest => do
    IO.eprintln line
    perform rest
  | .save mesh path rest => do
    perform (rest (← writeMesh mesh path))
  | .draw _ rest => perform rest

def main (words : List String) : IO UInt32 := do
  perform (CommandLine.grow Twister (← drawEntropy) (words.map String.toList))
