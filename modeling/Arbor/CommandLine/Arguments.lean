/-
# The arguments of the command line

The words of a command line are options, values of options and words that
belong to nothing. Every word is classified first, which may already be
refused: a word that could be short for several options is ambiguous. Then
the words are read in order. An option that takes a value has it behind an
equals sign or in the next word, if that is no option; words that belong to
nothing are collected and refused at the end.

A value behind an equals sign that is only the separator is dropped, and the
option is left without one.

Key definitions: `Flag`, `classify`, `Arguments`, `readArguments`.
-/
import Arbor.Number.Numeral
import Arbor.Text.Quoted
import Arbor.Grammar

namespace Arbor
namespace CommandLine

/-- The options of the command line. -/
inductive Flag where
  | help
  | seed
  | generations
  | step
  | exportTo
  | noPlot
  deriving DecidableEq, Repr

/-- The words for the options, in the order in which they are listed. -/
def flagWords : List (List Char × Flag) :=
  [("-h".toList, .help), ("--help".toList, .help), ("--seed".toList, .seed),
    ("--generations".toList, .generations), ("--step".toList, .step),
    ("--export".toList, .exportTo), ("--no-plot".toList, .noPlot)]

/-- How a message names an option. -/
def Flag.title : Flag → String
  | help => "-h/--help"
  | seed => "--seed"
  | generations => "--generations"
  | step => "--step"
  | exportTo => "--export"
  | noPlot => "--no-plot"

/-- Whether an option takes a value. -/
def Flag.takesValue : Flag → Bool
  | help => false
  | noPlot => false
  | _ => true

/-- Why a command line is refused. -/
inductive UsageFault where
  /-- A word is short for several options. -/
  | ambiguous (word : List Char) (candidates : List (List Char))
  /-- An option that takes a value has none. -/
  | missingValue (flag : Flag)
  /-- An option that takes no value has one. -/
  | surplusValue (flag : Flag) (value : List Char)
  | notAnInteger (flag : Flag) (value : List Char)
  | notANumber (flag : Flag) (value : List Char)
  /-- Words that belong to nothing. -/
  | unrecognized (words : List (List Char))
  deriving DecidableEq, Repr

/-- Words with a separator between each two of them. -/
def joined (separator : String) (words : List (List Char)) : String :=
  separator.intercalate (words.map String.ofList)

/-- The wording of a fault. -/
def UsageFault.message : UsageFault → String
  | ambiguous word candidates =>
    "ambiguous option: " ++ String.ofList word ++ " could match " ++ joined ", " candidates
  | missingValue flag => "argument " ++ flag.title ++ ": expected one argument"
  | surplusValue flag value =>
    "argument " ++ flag.title ++ ": ignored explicit argument " ++ quoted value
  | notAnInteger flag value => "argument " ++ flag.title ++ ": invalid int value: " ++ quoted value
  | notANumber flag value => "argument " ++ flag.title ++ ": invalid float value: " ++ quoted value
  | unrecognized words => "unrecognized arguments: " ++ joined " " words

/-! ### Classifying words -/

/-- What a word of the command line is. -/
inductive Kind where
  /-- A value of an option, or a word that belongs to nothing. -/
  | plain
  /-- The separator after which no word is an option. -/
  | separator
  /-- An option, as written by `spelling`, and the value written into the same
  word. -/
  | option (flag : Flag) (spelling : List Char) (value : Option (List Char))
  /-- Looks like an option but is none. -/
  | unknown
  deriving DecidableEq, Repr

/-- The flag with exactly this spelling. -/
def flagOf? (word : List Char) : Option Flag :=
  (flagWords.find? fun entry => entry.1 == word).map (·.2)

/-- A word cut at its first equals sign. -/
def cut? (word : List Char) : Option (List Char × List Char) :=
  match word.dropWhile (· != '=') with
  | [] => none
  | _ :: value => some (word.takeWhile (· != '='), value)

/-- Whether a word reads as a negative number: a minus and digits, with or
without a point that has digits behind it. One line end at the end does not
matter. -/
def looksNegative (word : List Char) : Bool :=
  let isDigit (c : Char) : Bool := (digitValue? c).isSome
  let body := if word.getLast? == some '\n' then word.dropLast else word
  match body with
  | '-' :: rest =>
    let tail := rest.dropWhile isDigit
    match tail with
    | [] => !rest.isEmpty
    | '.' :: after => !after.isEmpty && after.all isDigit
    | _ => false
  | _ => false

/-- The options that a word could be short for, with the value written into
it. Only words with two dashes can be cut at an equals sign; behind one dash
and a letter the rest of the word is the value. -/
def candidates (word : List Char) : List (Flag × List Char × Option (List Char)) :=
  match word with
  | '-' :: '-' :: _ =>
    let (start, value) := match cut? word with
      | some (start, value) => (start, some value)
      | none => (word, none)
    flagWords.filterMap fun (spelling, flag) =>
      if start.isPrefixOf spelling then some (flag, spelling, value) else none
  | _ =>
    flagWords.filterMap fun (spelling, flag) =>
      if spelling == word.take 2 then some (flag, spelling, some (word.drop 2))
      else if word.isPrefixOf spelling then some (flag, spelling, none)
      else none

/-- What a word is that begins with a dash and is no option as it stands. -/
def classifyDashed (word : List Char) : Except UsageFault Kind :=
  match candidates word with
  | [(flag, spelling, value)] => .ok (.option flag spelling value)
  | [] => .ok (if looksNegative word || word.contains ' ' then .plain else .unknown)
  | several => .error (.ambiguous word (several.map (·.2.1)))

/-- What a word of the command line is, in front of the separator. -/
def classify (word : List Char) : Except UsageFault Kind :=
  if word = ['-', '-'] then .ok .separator
  else if word.head? ≠ some '-' then .ok .plain
  else
    match flagOf? word with
    | some flag => .ok (.option flag word none)
    | none =>
      if word.length = 1 then .ok .plain
      else
        match cut? word with
        | none => classifyDashed word
        | some (start, value) =>
          match flagOf? start with
          | some flag => .ok (.option flag start (some value))
          | none => classifyDashed word

/-- All words with what they are. -/
def classifyAll : List (List Char) → Except UsageFault (List (List Char × Kind))
  | [] => .ok []
  | word :: rest => do
    match ← classify word with
    | .separator => pure ((word, .separator) :: rest.map fun other => (other, .plain))
    | kind => pure ((word, kind) :: (← classifyAll rest))

/-! ### Reading the options -/

/-- A value among the arguments: one that was read, or nothing, when the value
written was only a separator, which is dropped. -/
inductive Given (β : Type) where
  | value (v : β)
  | dropped

/-- What a command line asks for. -/
structure Arguments where
  seed : Given (Option Int)
  generations : Given Int
  step : Given Float
  exportPath : Option (List Char)
  plot : Bool

/-- What is done when nothing is asked for. -/
def Arguments.default : Arguments :=
  ⟨.value none, .value (Int.ofNat mimosaGenerations), .value 0.5, none, true⟩

/-- What becomes of a command line. -/
inductive Reading where
  | arguments (a : Arguments)
  /-- The help is asked for. -/
  | help
  | refused (fault : UsageFault)

/-- The value of an option put among the arguments. -/
def Arguments.set (a : Arguments) (flag : Flag) (value : List Char) : Except UsageFault Arguments :=
  match flag with
  | .seed =>
    match Numeral.readInt 10 value with
    | some n => .ok { a with seed := .value (some n) }
    | none => .error (.notAnInteger flag value)
  | .generations =>
    match Numeral.readInt 10 value with
    | some n => .ok { a with generations := .value n }
    | none => .error (.notAnInteger flag value)
  | .step =>
    match Numeral.readFloat value with
    | some x => .ok { a with step := .value x }
    | none => .error (.notANumber flag value)
  | .exportTo => .ok { a with exportPath := some value }
  | .noPlot => .ok { a with plot := false }
  | .help => .ok a

/-- The arguments when the value of an option is dropped. -/
def Arguments.drop (a : Arguments) (flag : Flag) : Arguments :=
  match flag with
  | .seed => { a with seed := .dropped }
  | .generations => { a with generations := .dropped }
  | .step => { a with step := .dropped }
  | .exportTo => { a with exportPath := none }
  | .noPlot | .help => a

/-- The value that was written into the word of an option which takes none.
Behind one dash it can be more letters, each for an option, and only the
letter for help is one. -/
def surplus (flag : Flag) (spelling value : List Char) : Reading :=
  if spelling.take 2 = ['-', '-'] then .refused (.surplusValue flag value)
  else
    match value.dropWhile (· == 'h') with
    | [] => if value.isEmpty then .refused (.surplusValue flag value) else .help
    | wrong => .refused (.surplusValue flag wrong)

/-- Reads classified words. The words that belong to nothing are `stray`, the
last one first. -/
def readWords : List (List Char × Kind) → Arguments → List (List Char) → Reading
  | [], a, stray =>
    if stray.isEmpty then .arguments a else .refused (.unrecognized stray.reverse)
  | (_, .option flag _ none) :: rest, a, stray =>
    if flag.takesValue then
      match rest with
      | (value, .plain) :: others =>
        match a.set flag value with
        | .error fault => .refused fault
        | .ok a => readWords others a stray
      | _ => .refused (.missingValue flag)
    else if flag = .help then .help
    else readWords rest { a with plot := false } stray
  | (_, .option flag spelling (some value)) :: rest, a, stray =>
    if flag.takesValue then
      if value = ['-', '-'] then readWords rest (a.drop flag) stray
      else
        match a.set flag value with
        | .error fault => .refused fault
        | .ok a => readWords rest a stray
    else surplus flag spelling value
  | (word, _) :: rest, a, stray => readWords rest a (word :: stray)

/-- Reads a command line. -/
def readArguments (words : List (List Char)) : Reading :=
  match classifyAll words with
  | .error fault => .refused fault
  | .ok classified => readWords classified Arguments.default []

end CommandLine
end Arbor
