/-
# What a command does

A command prints, complains, exports a mesh and draws pictures, and what it
does next may depend on how an export went. `Program` is such a course of
actions as a value, so that what a command does can be told without doing it.
`Program.run` carries it out on a record of everything it leaves behind, with
any way of exporting; the outermost layer carries it out for real.

Key definitions: `Program`, `Program.run`, `Record`, `Ending`.
-/
import Arbor.Export
import Arbor.Picture

namespace Arbor

/-- Why a command breaks off without an exit code. -/
inductive Failure where
  | tree (fault : Tree.Fault Float)
  | mesh (fault : Mesh.Fault)
  | saving (fault : Export.Fault)
  | drawing (fault : Picture.Fault)
  /-- The seed or the step is without a value. -/
  | missingValue

/-- The wording of a failure. -/
def Failure.message : Failure → String
  | tree fault => fault.message
  | mesh fault => fault.message
  | saving fault => fault.message
  | drawing fault => fault.message
  | missingValue => "an option is without a value"

/-- How a command ends. -/
inductive Ending where
  /-- At the end of what there was to do. -/
  | finished
  | exit (code : Nat)
  | raised (cause : Failure)

/-- A course of actions. -/
inductive Program where
  | stop (ending : Ending)
  /-- Prints a line. -/
  | print (line : String) (rest : Program)
  /-- Prints a line where complaints go. -/
  | complain (line : String) (rest : Program)
  /-- Exports a mesh; what comes after it depends on the outcome. -/
  | save (mesh : Mesh Float) (path : List Char) (rest : Except Export.Fault Unit → Program)
  | draw (sheet : Sheet Float) (rest : Program)

/-- What a command leaves behind, in a world with files of type `ω`. -/
structure Record (ω : Type) where
  printed : List String
  complaints : List String
  sheets : List (Sheet Float)
  files : ω

namespace Program

/-- Prints lines one after the other. -/
def prints (lines : List String) (rest : Program) : Program := lines.foldr print rest

/-- Prints lines one after the other where complaints go. -/
def complains (lines : List String) (rest : Program) : Program := lines.foldr complain rest

/-- Carries out a program: what it leaves behind and how it ends. -/
def run {ω : Type} (exporter : Mesh Float → List Char → ω → Except Export.Fault Unit × ω) :
    Program → Record ω → Record ω × Ending
  | stop ending, record => (record, ending)
  | print line rest, record => run exporter rest { record with printed := record.printed ++ [line] }
  | complain line rest, record =>
    run exporter rest { record with complaints := record.complaints ++ [line] }
  | save mesh path rest, record =>
    let (outcome, files) := exporter mesh path record.files
    run exporter (rest outcome) { record with files := files }
  | draw sheet rest, record =>
    run exporter rest { record with sheets := record.sheets ++ [sheet] }

/-- Carries out a program in a folder in which nothing has happened yet. -/
def runIn (folder : Folder) (program : Program) : Record Folder × Ending :=
  program.run Export.toFolder ⟨[], [], [], folder⟩

end Program
end Arbor
