/-
# Folders

A `Folder` is what lies below the working directory: a list of places with
what is found there. A place is given by text and may go up and down again on
its way; `Place.ofText` follows it by its names alone. A place that does not
lie below the working directory is out of reach: it can be written to, and
nothing of it is seen.

`Folder.makeFolders` makes the folders down to a place and `Folder.write`
puts a file there. Either is denied, with the path it concerns, when a file
is in the way, a folder is where a file is to be, or a name or a path is too
long. A name with the character NUL is no name at all and is never asked for,
and no more than `Folder.mostNew` folders are made at once.

Key definitions: `Place`, `Place.ofText`, `Folder`, `Folder.find?`,
`Folder.makeFolders`, `Folder.write`, `Folder.files`.
-/
import Arbor.Text.Quoted

namespace Arbor

/-- The names that lead from the working directory to a place. -/
abbrev Place := List (List Char)

namespace Place

/-- The pieces of a text between its slashes. -/
def pieces : List Char → List (List Char)
  | [] => [[]]
  | c :: rest =>
    match pieces rest with
    | [] => [[c]]
    | piece :: others => if c = '/' then [] :: piece :: others else (c :: piece) :: others

/-- Goes on from a place, whose last name stands first, by one name. Two dots
lead up, one dot and an empty name nowhere. Nothing leads back from above the
working directory. -/
def follow (place : Option Place) (name : List Char) : Option Place :=
  match place with
  | none => none
  | some names =>
    if name = [] ∨ name = ['.'] then some names
    else if name = ['.', '.'] then
      match names with
      | [] => none
      | _ :: outer => some outer
    else some (name :: names)

/-- The place that a text leads to, if it lies below the working directory. -/
def ofText (text : List Char) : Option Place :=
  if text.head? = some '/' then none
  else ((pieces text).foldl follow (some [])).map List.reverse

/-- A place as text, below the directory `home`. -/
def text (home : List Char) (place : Place) : List Char :=
  home ++ place.flatMap ('/' :: ·)

end Place

/-- What is found at a place. -/
inductive Entry where
  | folder
  /-- A file that was there before. -/
  | old
  /-- A mesh that was written, by its numbers of vertices and faces. -/
  | mesh (vertices faces : Nat)
  deriving DecidableEq, Repr

/-- What lies below the working directory. -/
structure Folder where
  /-- The path of the working directory. -/
  home : List Char
  entries : List (Place × Entry)
  deriving DecidableEq, Repr

namespace Folder

/-- Why a folder or a file is not made. -/
inductive Denial where
  /-- A file is where a folder is to be. -/
  | fileExists
  /-- A file is on the way to where a folder is to be. -/
  | notAFolder
  /-- A folder is where a file is to be. -/
  | isAFolder
  /-- A name or a path is too long. -/
  | nameTooLong
  /-- Anything else that a system may say. -/
  | other (number : Nat) (reason : String)
  deriving DecidableEq, Repr

/-- The number of a denial. -/
def Denial.number : Denial → Nat
  | fileExists => 17
  | notAFolder => 20
  | isAFolder => 21
  | nameTooLong => 36
  | other number _ => number

/-- The wording of a denial. -/
def Denial.reason : Denial → String
  | fileExists => "File exists"
  | notAFolder => "Not a directory"
  | isAFolder => "Is a directory"
  | nameTooLong => "File name too long"
  | other _ reason => reason

/-- Why a folder or a file cannot be made. -/
inductive Fault where
  /-- A name holds the character NUL. -/
  | impossibleName
  /-- Too many folders would have to be made inside each other. -/
  | tooDeep
  | denied (why : Denial) (path : List Char)
  deriving DecidableEq, Repr

/-- The wording of a fault. -/
def Fault.message : Fault → String
  | impossibleName => "a name holds the character NUL"
  | tooDeep => "too many folders are missing on the way"
  | denied why path =>
    "[Errno " ++ toString why.number ++ "] " ++ why.reason ++ ": " ++ quoted path

/-- What is found at a place; the working directory itself is a folder. -/
def find? (folder : Folder) (place : Place) : Option Entry :=
  if place = [] then some .folder
  else (folder.entries.find? fun entry => entry.1 == place).map (·.2)

/-- The folder with something else at a place. -/
def put (folder : Folder) (place : Place) (entry : Entry) : Folder :=
  { folder with
    entries := (folder.entries.filter fun other => other.1 != place) ++ [(place, entry)] }

/-- The path of a place. -/
def path (folder : Folder) (place : Place) : List Char := place.text folder.home

/-- How many bytes a text takes. -/
def byteCount (text : List Char) : Nat := (String.ofList text).utf8ByteSize

/-- How many bytes a name may have. -/
def nameLimit : Nat := 255

/-- How many bytes a path may have. -/
def pathLimit : Nat := 4095

/-- Why a place cannot even be asked for: its last name holds the character
NUL, or its path is too long. -/
def unaskable? (folder : Folder) (place : Place) : Option Fault :=
  if (place.getLastD []).contains '\x00' then some .impossibleName
  else if pathLimit < byteCount (folder.path place) then
    some (.denied .nameTooLong (folder.path place))
  else none

/-- Why nothing new can be made at a place in a folder. -/
def unnameable? (folder : Folder) (place : Place) : Option Fault :=
  match folder.unaskable? place with
  | some fault => some fault
  | none =>
    if nameLimit < byteCount (place.getLastD []) then
      some (.denied .nameTooLong (folder.path place))
    else none

/-- How many folders are made at once, each inside the one before it. -/
def mostNew : Nat := 985

/-- Makes the folders on the way from a place down along names that are not
there yet. -/
def makeNew (folder : Folder) (here : Place) : List (List Char) → Except Fault Folder
  | [] => .ok folder
  | name :: names =>
    let next := here ++ [name]
    match folder.unnameable? next with
    | some fault => .error fault
    | none => makeNew { folder with entries := folder.entries ++ [(next, .folder)] } next names

/-- Makes the folders on the way from a place down along further names. The
way leads through a folder, so that only the next name can be in the way. -/
def makeFrom (folder : Folder) (here : Place) : List (List Char) → Except Fault Folder
  | [] => .ok folder
  | name :: names =>
    let next := here ++ [name]
    match folder.find? next with
    | some .folder => makeFrom folder next names
    | none =>
      if mostNew ≤ names.length then .error .tooDeep else makeNew folder here (name :: names)
    | some _ =>
      match names with
      | [] => .error (.denied .fileExists (folder.path next))
      | beyond :: _ =>
        if mostNew < names.length then .error .tooDeep
        else
          match folder.unaskable? (next ++ [beyond]) with
          | some fault => .error fault
          | none => .error (.denied .notAFolder (folder.path (next ++ [beyond])))

/-- Makes all folders down to a place. -/
def makeFolders (folder : Folder) (place : Place) : Except Fault Folder := makeFrom folder [] place

/-- Puts a file at a place in a folder, over one that is there. -/
def write (folder : Folder) (place : Place) (file : Entry) : Except Fault Folder :=
  match folder.find? place with
  | some .folder => .error (.denied .isAFolder (folder.path place))
  | some _ => .ok (folder.put place file)
  | none =>
    match folder.unnameable? place with
    | some fault => .error fault
    | none => .ok (folder.put place file)

/-- The working directory that texts describe: a text that ends in a slash is a folder,
any other one a file, and the folders on the way to it are there as well. -/
def ofTexts (home : List Char) (texts : List (List Char)) : Folder :=
  texts.foldl
    (fun folder text =>
      match Place.ofText text with
      | none => folder
      | some place =>
        let isFolder := text.getLast? == some '/'
        let way := if isFolder then place else place.dropLast
        match folder.makeFolders way with
        | .error _ => folder
        | .ok folder => if isFolder then folder else folder.put place .old)
    ⟨home, []⟩

/-- The text of a place from the working directory. -/
def nameOf (place : Place) : List Char := (Place.text [] place).drop 1

/-- All files with their names, in the order of the code points of the
names. -/
def files (folder : Folder) : List (List Char × Entry) :=
  ((folder.entries.filter fun entry => entry.2 != .folder).map
    fun entry => (nameOf entry.1, entry.2)).mergeSort fun a b => !(b.1 < a.1 : Bool)

end Folder
end Arbor
