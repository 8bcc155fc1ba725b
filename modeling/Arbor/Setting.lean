/-
# Untyped settings

A grammar and its settings may come from a place that knows no types, so a
key, a replacement or a count can be anything. A `Setting` is such a value.
`Setting.holds` says which of them count as true and `Setting.written` how a
message names one; a value that is made of others brings its name along.

Key definitions: `Collection`, `Setting`, `Setting.holds`, `Setting.written`,
`require`.
-/
import Arbor.Number.Shortest
import Arbor.Text.Quoted

namespace Arbor

/-- A value that is made of others, such as a tuple, a list or a table: how many
entries it has, and how a message names it. Every other value that is nothing
simple is taken for one with a single entry, or with none if it counts as
false. -/
structure Collection where
  size : Nat
  name : String

/-- Lists and tables are never keys, so that no message names one: its size is
enough. -/
instance : Coe Nat Collection := ⟨fun size => ⟨size, ""⟩⟩

/-- A value whose type has not been checked. -/
inductive Setting where
  | nothing
  | truth (value : Bool)
  | whole (value : Int)
  | real (value : Float)
  | text (value : List Char)
  | collection (value : Collection)

namespace Setting

/-- Whether a value counts as true: all but nothing, false, zero and what is
empty. -/
def holds : Setting → Bool
  | nothing => false
  | truth value => value
  | whole value => value != 0
  | real value => value != 0.0
  | text value => !value.isEmpty
  | collection value => value.size != 0

/-- How a message names a value. -/
def written : Setting → String
  | nothing => "None"
  | truth value => if value then "True" else "False"
  | whole value => toString value
  | real value => Shortest.text value
  | text value => quoted value
  | collection value => value.name

end Setting

/-- Passes when the condition counts as true and fails with the message
otherwise. -/
def require (condition : Setting) (message : String) : Except String Unit :=
  if condition.holds then .ok () else .error message

end Arbor
