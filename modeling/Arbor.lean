import Arbor.Main
import Arbor.Proofs.Bracket.Matched
import Arbor.Proofs.Bracket.Depth
import Arbor.Proofs.Bracket.Substitution
import Arbor.Proofs.Turtle.Climb
import Arbor.Proofs.Turtle.Heading
import Arbor.Proofs.Tree.Growth
import Arbor.Proofs.Tree.History
import Arbor.Proofs.Tree.Extension
import Arbor.Proofs.Tree.Draws
import Arbor.Proofs.Grammar.DeadSymbols
import Arbor.Proofs.Chance.Unit
import Arbor.Proofs.Grammar.Counts
import Arbor.Proofs.Tree.DeadSymbols
import Arbor.Proofs.Tree.Mimosa
import Arbor.Proofs.CommandLine.Outcome
import Arbor.Proofs.Mesh.Composed
import Arbor.Proofs.Mesh.Parts
import Arbor.Proofs.Mesh.Scene
import Arbor.Proofs.Picture.Axes
import Arbor.Proofs.Tree.Memory
import Arbor.Proofs.Mesh.Winding
import Arbor.Proofs.Turtle.Mirror
import Arbor.Proofs.Turtle.Turning
import Arbor.Proofs.Turtle.Locality
import Arbor.Proofs.Tree.Scaling
import Arbor.Proofs.Grammar.Powers
import Arbor.Proofs.Grammar.Incidence
import Arbor.Proofs.Grammar.Sequence
import Arbor.Proofs.Mesh.Tubes
import Arbor.Proofs.Mesh.Batch
import Arbor.Proofs.Mesh.Rims
import Arbor.Proofs.Mesh.Closed
import Arbor.Proofs.Mesh.Prism
import Arbor.Proofs.Grammar.OneKey
import Arbor.Proofs.Bracket.Nesting
import Arbor.Proofs.Tree.Flowers
import Arbor.Proofs.Chance.Range
import Arbor.Proofs.Turtle.Replay
import Arbor.Proofs.Tree.Range
import Arbor.Proofs.CommandLine.Course
import Arbor.Proofs.CommandLine.Effects
import Arbor.Proofs.Mesh.Colour
