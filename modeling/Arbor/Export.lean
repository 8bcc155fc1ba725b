/-
# Exporting a mesh

A mesh is written to a file in the format that the letters after the last dot
of the file's name stand for, in any case; a name without a dot is all
letters. The folders on the way to the file are made first, so they are there
even if the name has no known format. Then the file is made, and it is there,
without anything in it, even if its format does not take a mesh.

Some formats make further files beside it. One of them puts the data of a mesh
into files of their own and a description of the data into a file that is made
last. That is the first file again, unless its name has white space at its
ends: such a file stays empty, and the name without it is taken.

Key definitions: `Format`, `Format.ofText`, `Export.filesOf`,
`Export.toFolder`.
-/
import Arbor.Folder
import Arbor.Mesh.Basic
import Arbor.Text.Digit

namespace Arbor

/-- The formats that a file can be made in. -/
inductive Format where
  | obj
  | ply
  | off
  | stl
  | stlText
  | glb
  /-- A description of data that lie in files of their own. -/
  | gltf
  /-- A format of several parts, each of which goes into a file of its own. -/
  | parts
  /-- A format for points alone. -/
  | points
  /-- A format that takes a mesh only with the help of another library. -/
  | collada
  /-- A packed format, which takes a mesh only with the help of another library. -/
  | packed
  deriving DecidableEq, Repr

namespace Format

/-- The letters that the formats are known by. -/
def known : List (List Char × Format) :=
  [("obj".toList, obj), ("ply".toList, ply), ("off".toList, off), ("stl".toList, stl),
    ("stl_ascii".toList, stlText), ("glb".toList, glb), ("gltf".toList, gltf),
    ("dict".toList, parts), ("dict64".toList, parts), ("xyz".toList, points),
    ("dae".toList, collada), ("3mf".toList, packed)]

/-- What follows the last dot of a text; all of it if there is none. -/
def extension (text : List Char) : List Char := (text.reverse.takeWhile (· != '.')).reverse

/-- The format that the name of a file asks for. -/
def ofText (text : List Char) : Option Format :=
  (known.find? fun entry => entry.1 == (extension text).map Char.toLower).map (·.2)

end Format

namespace Export

/-- Why a mesh is not exported. -/
inductive Fault where
  /-- The name of the file asks for no known format. -/
  | unknownFormat
  /-- The format is for points alone. -/
  | notPoints
  /-- The first part of the mesh is not something that a file can hold. -/
  | notBytes
  /-- The library that writes the format is missing. -/
  | missingLibrary (format : Format)
  /-- The file cannot be made. -/
  | folder (fault : Folder.Fault)
  deriving DecidableEq, Repr

/-- The wording of a fault. -/
def Fault.message : Fault → String
  | unknownFormat => "the format of the file is not known"
  | notPoints => "the format is for points alone"
  | notBytes => "the first part of the mesh is not something that a file can hold"
  | missingLibrary _ => "the library that writes the format is missing"
  | folder fault => fault.message

/-- What a file holds of a mesh: all vertices, or three for each face in the
formats that repeat them for every face. -/
def contents {α : Type} (format : Format) (m : Mesh α) : Except Fault Entry :=
  match format with
  | .obj | .ply | .off | .glb | .gltf => .ok (.mesh m.vertices.length m.faces.length)
  | .stl | .stlText => .ok (.mesh (3 * m.faces.length) m.faces.length)
  | .parts => .error .notBytes
  | .points => .error .notPoints
  | .collada | .packed => .error (.missingLibrary format)

/-- The place of the file that a text names. A tilde in front of the first
slash leads to another folder, out of reach. -/
def placeOf (text : List Char) : Option Place :=
  if text.take 2 = ['~', '/'] then none else Place.ofText text

/-- What one of the files of an export is for. -/
inductive Piece where
  /-- It is made and nothing is put into it. -/
  | empty
  /-- It stands for the mesh. -/
  | mesh
  /-- It holds one of the buffers of data that another file describes. -/
  | buffer (number : Nat)
  deriving DecidableEq, Repr

/-- What is found in a file of an export, if `file` is found in the one that
stands for the mesh. -/
def Piece.entry (file : Entry) : Piece → Entry
  | mesh => file
  | empty | buffer _ => .mesh 0 0

/-- The place of a file with another name in the same folder. -/
def beside (place : Place) (name : List Char) : Place := place.dropLast ++ [name]

/-- How many buffers the data of a mesh take: faces, positions, colours. A mesh
without vertices has no data. -/
def bufferCount {α : Type} (m : Mesh α) : Nat := if m.vertices.isEmpty then 0 else 3

/-- The name of the file of a buffer. -/
def bufferName (number : Nat) : String := "gltf_buffer_" ++ toString number ++ ".bin"

/-- The files that a format makes for the file at a place, in their order. -/
def filesOf {α : Type} (m : Mesh α) (format : Format) (place : Place) : List (Place × Piece) :=
  match format with
  | .obj | .ply | .off | .stl | .stlText | .glb => [(place, .mesh)]
  | .gltf =>
    let buffers := (List.range (bufferCount m)).map fun number =>
      (beside place (bufferName number).toList, Piece.buffer number)
    (place, .empty) :: buffers ++ [(beside place (trimGaps (place.getLastD [])), .mesh)]
  | .parts => [(place, .empty), (beside place "metadata".toList, .empty)]
  | .points | .collada | .packed => [(place, .empty)]

/-- Makes files one after the other, until one is denied: the outcome, which is
`outcome` if all are made, and the folder after that. -/
def makeFiles (outcome : Except Fault Unit) (folder : Folder) :
    List (Place × Entry) → Except Fault Unit × Folder
  | [] => (outcome, folder)
  | (place, file) :: files =>
    match folder.write place file with
    | .error fault => (.error (.folder fault), folder)
    | .ok folder => makeFiles outcome folder files

/-- Makes the file that a text names and those beside it, and the folder after
that. -/
def toFile {α : Type} (m : Mesh α) (format : Format) (text : List Char) (folder : Folder) :
    Except Fault Unit × Folder :=
  let (outcome, file) : Except Fault Unit × Entry := match contents format m with
    | .ok file => (.ok (), file)
    | .error fault => (.error fault, .mesh 0 0)
  match placeOf text with
  | none => (outcome, folder)
  | some place =>
    makeFiles outcome folder
      ((filesOf m format place).map fun (place, piece) => (place, piece.entry file))

/-- Exports a mesh to the file that a text names, and the folder after that,
whether it succeeded or not. -/
def toFolder {α : Type} (m : Mesh α) (text : List Char) (folder : Folder) :
    Except Fault Unit × Folder :=
  let made : Except Folder.Fault Folder := match Place.ofText text with
    | none => .ok folder
    | some place => folder.makeFolders place.dropLast
  match made with
  | .error fault => (.error (.folder fault), folder)
  | .ok folder =>
    match Format.ofText text with
    | none => (.error .unknownFormat, folder)
    | some format => toFile m format text folder

end Export
end Arbor
