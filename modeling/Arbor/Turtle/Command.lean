/-
# The turtle's commands

Each symbol of a word is a command to the turtle: step forward, turn about an
axis one way or the other, save the cursor, go back to the saved one. All
other symbols leave the turtle as it is.

Key definitions: `Command`, `Command.ofSymbol`.
-/
import Arbor.Turtle.Rotation

namespace Arbor

/-- What a symbol tells the turtle to do. -/
inductive Command where
  /-- Step forward and leave a segment behind. -/
  | forward
  /-- Turn about an axis; against the right-hand rule when `backward`. -/
  | turn (axis : Axis) (backward : Bool)
  /-- Save the cursor. -/
  | save
  /-- Go back to the cursor saved last. -/
  | restore
  /-- Do nothing. -/
  | idle
  deriving DecidableEq, Repr

/-- The command that a symbol stands for. -/
def Command.ofSymbol : Char → Command
  | 'F' => .forward
  | '+' => .turn .z false
  | '-' => .turn .z true
  | '&' => .turn .x false
  | '^' => .turn .x true
  | '\\' => .turn .y false
  | '/' => .turn .y true
  | '[' => .save
  | ']' => .restore
  | _ => .idle

end Arbor
