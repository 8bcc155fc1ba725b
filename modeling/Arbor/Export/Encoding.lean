/-
# The contents of a file

What a file of each format holds of a mesh. Four of the formats are text, one
item a line, with numbers in the shortest form that reads back. Another one
is a list of words, the least byte of each first: a header, a description of
the data as text, and the data, each filled up to whole words. The last one is
that description alone, with the data in three buffers, each a file of its own.

Key definitions: `Format.encode`, `Export.Piece.encode`.
-/
import Arbor.Export
import Arbor.Number.Shortest

namespace Arbor
namespace Encoding

/-! ### Text -/

/-- Items with a blank between each two of them. -/
def spaced (items : List String) : String := " ".intercalate items

/-- A point by its coordinates. -/
def pointText (p : Point Float) : String :=
  spaced [Shortest.text p.x, Shortest.text p.y, Shortest.text p.z]

/-- A face by the places of its corners, the first vertex being at `base`. -/
def faceText (base : Nat) (f : Face Nat) : String :=
  spaced [toString (f.a + base), toString (f.b + base), toString (f.c + base)]

/-- A colour by its components. -/
def colourText (c : Colour) : String :=
  spaced [toString c.red, toString c.green, toString c.blue, toString c.alpha]

/-- Lines as bytes. -/
def bytesOf (lines : List String) : ByteArray :=
  lines.foldl (fun bytes line => bytes ++ (line.push '\n').toUTF8) ByteArray.empty

/-- The lines of a file of vertices and faces in which each has a letter in
front. -/
def objLines (m : Mesh Float) : List String :=
  (m.vertices.map fun p => "v " ++ pointText p) ++
    m.faces.map fun (f, _) => "f " ++ faceText 1 f

/-- The lines of a file that begins with the numbers of its vertices and
faces. -/
def offLines (m : Mesh Float) : List String :=
  ["OFF", spaced [toString m.vertices.length, toString m.faces.length, "0"]] ++
    m.vertices.map pointText ++
    m.faces.map fun (f, c) => spaced ["3", faceText 0 f, colourText c]

/-- The lines of a file that begins with a description of itself. -/
def plyLines (m : Mesh Float) : List String :=
  ["ply", "format ascii 1.0", "element vertex " ++ toString m.vertices.length,
    "property double x", "property double y", "property double z",
    "element face " ++ toString m.faces.length, "property list uchar int vertex_indices",
    "property uchar red", "property uchar green", "property uchar blue",
    "property uchar alpha", "end_header"] ++
    m.vertices.map pointText ++
    m.faces.map fun (f, c) => spaced ["3", faceText 0 f, colourText c]

/-- The lines of a file that has the corners of every face. -/
def stlLines (m : Mesh Float) : List String :=
  let vertices := m.vertices.toArray
  let corner (i : Nat) : Point Float := vertices.getD i Point.origin
  let facet (f : Face Nat) : List String :=
    let normal := ((corner f.b - corner f.a).cross (corner f.c - corner f.a)).unit
    ["facet normal " ++ pointText normal, "outer loop", "vertex " ++ pointText (corner f.a),
      "vertex " ++ pointText (corner f.b), "vertex " ++ pointText (corner f.c), "endloop",
      "endfacet"]
  ["solid mesh"] ++ (m.faces.flatMap fun (f, _) => facet f) ++ ["endsolid mesh"]

/-! ### Words -/

/-- A word at the end of some bytes. -/
def pushWord (bytes : ByteArray) (w : UInt32) : ByteArray :=
  (((bytes.push w.toUInt8).push (w >>> 8).toUInt8).push (w >>> 16).toUInt8).push (w >>> 24).toUInt8

/-- A coordinate, in half the bits, at the end of some bytes. -/
def pushScalar (bytes : ByteArray) (x : Float) : ByteArray := pushWord bytes x.toFloat32.toBits

/-- A point at the end of some bytes. -/
def pushPoint (bytes : ByteArray) (p : Point Float) : ByteArray :=
  pushScalar (pushScalar (pushScalar bytes p.x) p.y) p.z

/-- A face at the end of some bytes. -/
def pushFace (bytes : ByteArray) (f : Face Nat) : ByteArray :=
  pushWord (pushWord (pushWord bytes (UInt32.ofNat f.a)) (UInt32.ofNat f.b)) (UInt32.ofNat f.c)

/-- A colour at the end of some bytes. -/
def pushColour (bytes : ByteArray) (c : Colour) : ByteArray :=
  (((bytes.push (UInt8.ofNat c.red)).push (UInt8.ofNat c.green)).push (UInt8.ofNat c.blue)).push
    (UInt8.ofNat c.alpha)

/-- The colour of every vertex: that of the last face it is a corner of. -/
def vertexColours (m : Mesh Float) : Array Colour :=
  m.faces.foldl
    (fun found (f, c) =>
      ((found.setIfInBounds f.a c).setIfInBounds f.b c).setIfInBounds f.c c)
    (Array.replicate m.vertices.length Colour.branch)

/-- Named values as text. -/
def record (fields : List (String × String)) : String :=
  "\x7b" ++ ",".intercalate (fields.map fun (name, value) => "\"" ++ name ++ "\":" ++ value) ++
    "\x7d"

/-- A list of values as text. -/
def sequence (items : List String) : String := "[" ++ ",".intercalate items ++ "]"

/-- The coordinates of a point as text. -/
def coordinates (p : Point Float) : String :=
  sequence [Shortest.text p.x, Shortest.text p.y, Shortest.text p.z]

/-- The part of a buffer that begins at `start`. -/
def view (buffer start length : Nat) : String :=
  record [("buffer", toString buffer), ("byteOffset", toString start),
    ("byteLength", toString length)]

/-- What the parts of the data are: faces, positions, colours. The buffers and
the view of each part in them are given. -/
def description (m : Mesh Float) (corners : Point Float × Point Float)
    (buffers views : List String) : String :=
  let vertices := m.vertices.length
  let faces := m.faces.length
  let kind (part component count : Nat) (shape : String) : List (String × String) :=
    [("bufferView", toString part), ("componentType", toString component),
      ("count", toString count), ("type", "\"" ++ shape ++ "\"")]
  let attributes := record [("POSITION", "1"), ("COLOR_0", "2")]
  let primitive := record [("attributes", attributes), ("indices", "0")]
  record [("asset", record [("version", "\"2.0\"")]), ("scene", "0"),
    ("scenes", sequence [record [("nodes", "[0]")]]), ("nodes", sequence [record [("mesh", "0")]]),
    ("meshes", sequence [record [("primitives", sequence [primitive])]]),
    ("buffers", sequence buffers), ("bufferViews", sequence views),
    ("accessors", sequence [
      record (kind 0 5125 (3 * faces) "SCALAR"),
      record (kind 1 5126 vertices "VEC3" ++
        [("min", coordinates corners.1), ("max", coordinates corners.2)]),
      record (kind 2 5121 vertices "VEC4" ++ [("normalized", "true")])])]

/-- The description of no data at all. -/
def bareDescription : String := record [("asset", record [("version", "\"2.0\"")])]

/-- The parts of the data: the faces, the positions of the vertices, the
colours of the vertices. -/
def parts (m : Mesh Float) : List ByteArray :=
  [m.faces.foldl (fun bytes (f, _) => pushFace bytes f) ByteArray.empty,
    m.vertices.foldl pushPoint ByteArray.empty,
    (vertexColours m).foldl pushColour ByteArray.empty]

/-- The views of parts of the given sizes that stand one behind the other in the
first buffer, from `start` on. -/
def joinedViews (start : Nat) : List Nat → List String
  | [] => []
  | size :: sizes => view 0 start size :: joinedViews (start + size) sizes

/-- A text filled up with blanks to whole words. -/
def filled (text : String) : ByteArray :=
  let bytes := text.toUTF8
  (List.replicate ((4 - bytes.size % 4) % 4) (0x20 : UInt8)).foldl ByteArray.push bytes

/-- A part of a file: its length, its kind and its contents. -/
def chunk (kind : UInt32) (contents : ByteArray) : ByteArray :=
  pushWord (pushWord ByteArray.empty (UInt32.ofNat contents.size)) kind ++ contents

/-- The bytes of a file with a description and data. -/
def glbBytes (m : Mesh Float) : ByteArray :=
  let chunks := match m.bounds with
    | none => chunk 0x4E4F534A (filled bareDescription)
    | some corners =>
      let data := (parts m).foldl ByteArray.append ByteArray.empty
      let buffer := record [("byteLength", toString data.size)]
      let views := joinedViews 0 ((parts m).map ByteArray.size)
      chunk 0x4E4F534A (filled (description m corners [buffer] views)) ++ chunk 0x004E4942 data
  let header := pushWord (pushWord ByteArray.empty 0x46546C67) 2
  pushWord header (UInt32.ofNat (chunks.size + 12)) ++ chunks

/-- The bytes of a file with a description of data that lie in buffers of their
own. -/
def gltfBytes (m : Mesh Float) : ByteArray :=
  match m.bounds with
  | none => bareDescription.toUTF8
  | some corners =>
    let sizes := ((parts m).map ByteArray.size).zipIdx
    let buffers := sizes.map fun (size, number) =>
      record [("byteLength", toString size), ("uri", "\"" ++ Export.bufferName number ++ "\"")]
    (description m corners buffers (sizes.map fun (size, number) => view number 0 size)).toUTF8

end Encoding

/-- The bytes of the file that stands for a mesh. -/
def Format.encode (m : Mesh Float) : Format → ByteArray
  | .obj => Encoding.bytesOf (Encoding.objLines m)
  | .ply => Encoding.bytesOf (Encoding.plyLines m)
  | .off => Encoding.bytesOf (Encoding.offLines m)
  | .stl | .stlText => Encoding.bytesOf (Encoding.stlLines m)
  | .glb => Encoding.glbBytes m
  | .gltf => Encoding.gltfBytes m
  | .parts | .points | .collada | .packed => ByteArray.empty

/-- The bytes of a file of an export. -/
def Export.Piece.encode (m : Mesh Float) (format : Format) : Export.Piece → ByteArray
  | .empty => ByteArray.empty
  | .mesh => format.encode m
  | .buffer number => (Encoding.parts m).getD number ByteArray.empty

end Arbor
