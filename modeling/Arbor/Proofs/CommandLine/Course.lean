/-
# The course of a program

What a program does comes to a list of events and an ending. How an export went
may decide what comes after it, so that the list depends on the way of exporting
and on the files that are there. The record of a run is what the events leave
behind, one after the other (`Program.run_course`): it shows how often each thing
has been done, and the course shows in which order as well.

Key definitions: `Event`, `Event.leave`, `Program.course`.
Key theorems: `Program.run_course`, `Program.course_prints`.
-/
import Arbor.CommandLine.Program

namespace Arbor

/-- What a program does at one moment. -/
inductive Event where
  | printed (line : String)
  | complained (line : String)
  /-- A mesh is exported to a path, whether it comes to a file or not. -/
  | exported (mesh : Mesh Float) (path : List Char)
  | drew (sheet : Sheet Float)

section Courses

variable {ω : Type} (exporter : Mesh Float → List Char → ω → Except Export.Fault Unit × ω)

/-- The record after an event. -/
def Event.leave (record : Record ω) : Event → Record ω
  | printed line => { record with printed := record.printed ++ [line] }
  | complained line => { record with complaints := record.complaints ++ [line] }
  | exported mesh path => { record with files := (exporter mesh path record.files).2 }
  | drew sheet => { record with sheets := record.sheets ++ [sheet] }

namespace Program

/-- What a program does where these files are, and how it ends. -/
def course : Program → ω → List Event × Ending
  | stop ending, _ => ([], ending)
  | print line rest, files =>
    let (events, ending) := course rest files
    (.printed line :: events, ending)
  | complain line rest, files =>
    let (events, ending) := course rest files
    (.complained line :: events, ending)
  | save mesh path rest, files =>
    let (outcome, left) := exporter mesh path files
    let (events, ending) := course (rest outcome) left
    (.exported mesh path :: events, ending)
  | draw sheet rest, files =>
    let (events, ending) := course rest files
    (.drew sheet :: events, ending)

/-- A run leaves behind what the events of its course do. -/
theorem run_course (program : Program) (record : Record ω) :
    program.run exporter record =
      ((program.course exporter record.files).1.foldl (Event.leave exporter) record,
        (program.course exporter record.files).2) := by
  induction program generalizing record with
  | stop ending => rfl
  | print line rest ih => exact ih _
  | complain line rest ih => exact ih _
  | save mesh path rest ih => exact ih _ _
  | draw sheet rest ih => exact ih _

theorem course_prints (lines : List String) (rest : Program) (files : ω) :
    (prints lines rest).course exporter files =
      (lines.map .printed ++ (rest.course exporter files).1, (rest.course exporter files).2) := by
  induction lines with
  | nil => rfl
  | cons line lines ih =>
    show (Event.printed line :: ((prints lines rest).course exporter files).1,
      ((prints lines rest).course exporter files).2) = _
    rw [ih]
    rfl

end Program
end Courses
end Arbor
