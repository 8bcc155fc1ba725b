/-
# The commands

`grow` is the command line: it reads its arguments, grows a mimosa, tells how
large it is, exports its mesh if a path is given and draws it unless it is
told not to. `mould` exports the mesh of one fixed mimosa, `exportTree` that
of any tree, and `report` tells how the grammar of the mimosa grows.

Key definitions: `grow`, `growTree`, `mould`, `exportTree`, `report`.
-/
import Arbor.CommandLine.Arguments
import Arbor.CommandLine.Program
import Arbor.Number.Places

namespace Arbor
namespace CommandLine

/-- How the command line is to be used. -/
def usage : List String :=
  ["usage: mimosa.py [-h] [--seed SEED] [--generations GENERATIONS] [--step STEP]",
    "                 [--export PATH] [--no-plot]"]

/-- What the command line does, option by option. -/
def helpLines : List String :=
  usage ++
    ["",
      "Grow an L-system mimosa tree and show it in 3D.",
      "",
      "options:",
      "  -h, --help            show this help message and exit",
      "  --seed SEED           Seed for a repeatable tree.",
      "  --generations GENERATIONS",
      "                        Grammar generations (default 5).",
      "  --step STEP           Branch length per F (default 0.5).",
      "  --export PATH         Also write the scene mesh; format from the extension",
      "                        (.obj, .glb, .ply, ...).",
      "  --no-plot             Skip the matplotlib window."]

/-- Whether a fault comes from the settings or the grammar of a tree, so that
the command line tells it and ends, and does not break off. -/
def isConfigFault {α : Type} : Tree.Fault α → Bool
  | .grammar .replacementNotText => false
  | .angleOutOfRange => false
  | .turtle (.turn _) => false
  | .turtle .lengthOutOfRange => false
  | _ => true

variable {γ : Type}

/-- The three lines that tell how large a tree is. -/
def summary (generations : Setting) (tree : Tree Float γ) : List String :=
  ["Expanded " ++ generations.written ++ " generations into " ++
      Places.grouped tree.word.length ++ " symbols",
    "Base angle: " ++ Places.fixed 1 (Scalar.degrees tree.baseAngle) ++ " deg",
    "Generated " ++ Places.grouped tree.segments.length ++ " branches, " ++
      Places.grouped tree.leaves.length ++ " leaves, " ++
      Places.grouped tree.flowers.length ++ " flowers"]

/-- Draws the picture of a tree, if it is wanted, and ends. -/
def drawAndExit (tree : Tree Float γ) (wanted : Bool) : Program :=
  if wanted then
    match picture tree true with
    | .error fault => .draw (.abandoned (fault.titleOf tree)) (.stop (.raised (.drawing fault)))
    | .ok drawn => .draw (.picture drawn) (.stop (.exit 0))
  else .stop (.exit 0)

/-- Exports the scene of a tree, if a path is given, and goes on. A file that
is denied ends the program. -/
def saveScene (tree : Tree Float γ) (path : List Char) (rest : Program) : Program :=
  if path.isEmpty then rest
  else
    match scene tree true SceneRadii.default with
    | .error fault => .stop (.raised (.mesh fault))
    | .ok mesh =>
      .save mesh path fun
        | .ok () => .print ("Done: " ++ String.ofList path) rest
        | .error (.folder (.denied why path)) =>
          .complain ("File error: " ++ (Folder.Fault.denied why path).message) (.stop (.exit 2))
        | .error fault => .stop (.raised (.saving fault))

variable [Generator γ Float]

/-- The number of generations that is asked for; without a value it is an empty
list. -/
def generationsOf : Given Int → Setting
  | .value n => .whole n
  | .dropped => .collection ⟨0, "[]"⟩

/-- The options of a mimosa with a seed, a number of generations and a length
of a step. -/
def optionsOf (seed : Option Int) (generations : Setting) (step : Float) : Options Float :=
  { Options.default seed with generations := generations, stepLength := .scalar step }

/-- Grows the tree that the arguments ask for. The generator of a tree without
a seed comes from `entropy`. -/
def growTree (γ : Type) [Generator γ Float] (entropy : Int) (a : Arguments) : Program :=
  match a.seed, a.step with
  | .value seed, .value step =>
    let options := optionsOf seed (generationsOf a.generations) step
    let (outcome, tree) := (Tree.plant options entropy : Tree Float γ).generate
    match outcome with
    | .error fault =>
      if isConfigFault fault then
        .complain ("Config error: " ++ fault.message) (.stop (.exit 2))
      else .stop (.raised (.tree fault))
    | .ok _ =>
      Program.prints (summary options.generations tree)
        (saveScene tree (a.exportPath.getD []) (drawAndExit tree a.plot))
  | _, _ => .stop (.raised .missingValue)

/-- The command line. -/
def grow (γ : Type) [Generator γ Float] (entropy : Int) (words : List (List Char)) : Program :=
  match readArguments words with
  | .help => Program.prints helpLines (.stop (.exit 0))
  | .refused fault =>
    Program.complains (usage ++ ["mimosa.py: error: " ++ fault.message]) (.stop (.exit 2))
  | .arguments a => growTree γ entropy a

/-- Exports the scene of a tree, or tells why there is none, and prints the
path. -/
def exportTree (outcome : Except (Tree.Fault Float) Unit) (tree : Tree Float γ) (withVase : Bool)
    (path : List Char) : Program :=
  match outcome with
  | .error fault => .stop (.raised (.tree fault))
  | .ok () =>
    match scene tree withVase SceneRadii.default with
    | .error fault => .stop (.raised (.mesh fault))
    | .ok mesh =>
      .save mesh path fun
        | .ok () => .print (String.ofList path) (.stop (.exit 0))
        | .error fault => .stop (.raised (.saving fault))

/-- The seed of the mimosa that is always the same. -/
def mouldSeed : Int := 42

/-- Exports the scene of the mimosa that is always the same, to the path that
the first word gives. -/
def mould (γ : Type) [Generator γ Float] (generations : Setting) (words : List (List Char))
    (ending : Ending) : Program :=
  let path := words.headD "mimosa.obj".toList
  let options : Options Float :=
    { Options.default (some mouldSeed) with generations := generations }
  let (outcome, tree) := (Tree.plant options mouldSeed : Tree Float γ).generate
  .print "Growing mimosa…" <|
    match outcome with
    | .error fault => .stop (.raised (.tree fault))
    | .ok _ =>
      .print (toString tree.segments.length ++ " branches, " ++ toString tree.leaves.length ++
        " leaves, " ++ toString tree.flowers.length ++ " flowers") <|
      .print "Meshing scene…" <|
        match scene tree true SceneRadii.default with
        | .error fault => .stop (.raised (.mesh fault))
        | .ok mesh =>
          .save mesh path fun
            | .ok () => .print ("Done: " ++ String.ofList path) (.stop ending)
            | .error fault => .stop (.raised (.saving fault))

/-! ### How the grammar grows -/

/-- The line that tells about one generation. -/
def reportLine (generation : Nat) (word : Word) : Except Bracket.Fault String := do
  let depth ← Bracket.depth word
  pure ("gen " ++ toString generation ++ ": " ++ Places.grouped word.length ++ " symbols, " ++
    Places.grouped (word.count 'F') ++ " F, depth " ++ toString depth)

/-- The lines that tell about all generations of the mimosa. -/
def reportLines : List String :=
  match Grammar.generations mimosaStart mimosaRules (.whole (Int.ofNat mimosaGenerations)) none with
  | .error _ => []
  | .ok words => words.zipIdx.filterMap fun (word, place) => (reportLine place word).toOption

/-- Tells how the grammar of the mimosa grows. -/
def report : Program := Program.prints reportLines (.stop (.exit 0))

end CommandLine
end Arbor
