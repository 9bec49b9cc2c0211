import DistanceField.Flat.Canonical
import DistanceField.Node.Find
import DistanceField.Node.Validate
import DistanceField.Scene
import DistanceField.Shader.Source

/-!
# Command line

Commands on the built-in scenes: `shader` prints shader code, `ir` the canonical text, `digest` all
fingerprints, and `list` the sizes of all scenes. Running a command is a function from its arguments
to an outcome; only writing the outcome touches the world.

The value of an option follows its name, or is written into the same argument. A value that is an
argument of its own does not start with a dash, unless it is a dash alone. No option is repeated.
-/

namespace DistanceField.CommandLine

/-- A command. -/
inductive Command where
  | shader (scene : String) (fragment : Bool) (places : Nat)
  | canonical (scene : String)
  | digests
  | list
  | version
  deriving DecidableEq

/-- What running a command leaves: an exit status and two texts. -/
structure Outcome where
  status : Nat
  stdout : String := ""
  stderr : String := ""
  deriving DecidableEq

def version : String := "0.1.0"

/-! ### Options -/

/-- The options of the commands. -/
inductive Flag where
  | fixture
  | fragment
  | precision
  deriving DecidableEq

/-- The long name of an option. -/
def Flag.long : Flag → String
  | .fixture => "fixture"
  | .fragment => "fragment"
  | .precision => "precision"

/-- The one-letter name of an option. -/
def Flag.short? : Flag → Option Char
  | .fixture => some 'f'
  | .fragment => none
  | .precision => some 'p'

/-- Whether an option has a value. -/
def Flag.hasValue : Flag → Bool
  | .fragment => false
  | _ => true

/-- The name of a long option and the value behind an equals sign. -/
def splitLong (cs : List Char) : String × Option String :=
  let (name, rest) := cs.span (· ≠ '=')
  (String.ofList name, rest.tail?.map String.ofList)

/-- The value that is written into the argument of a one-letter option. -/
def attached : List Char → Option String
  | [] => none
  | '=' :: value => some (String.ofList value)
  | value => some (String.ofList value)

/-- Whether an argument can be the value of the option before it. -/
def isValue (arg : String) : Bool :=
  arg = "-" || arg.toList.head? ≠ some '-'

/-- An option and the value in its own argument, if there is one; none if the argument is no option
of the command. -/
def option? (allowed : List Flag) (arg : String) : Option (Flag × Option String) :=
  match arg.toList with
  | '-' :: '-' :: body =>
    let (name, value) := splitLong body
    (allowed.find? (·.long = name)).map (·, value)
  | '-' :: letter :: body =>
    (allowed.find? (·.short? = some letter)).map (·, attached body)
  | _ => none

/-- The options with their values. -/
def options? (allowed : List Flag) : List String → Option (List (Flag × String))
  | [] => some []
  | ["--"] => some []
  | arg :: rest => do
    match ← option? allowed arg, rest with
    | (flag, some value), rest =>
      if flag.hasValue then return (flag, value) :: (← options? allowed rest) else none
    | (flag, none), rest =>
      if ¬ flag.hasValue then return (flag, "") :: (← options? allowed rest)
      else
        match rest with
        | value :: rest =>
          if isValue value then return (flag, value) :: (← options? allowed rest) else none
        | [] => none

/-- The options of a command, none of them repeated. -/
def distinctOptions? (allowed : List Flag) (args : List String) :
    Option (List (Flag × String)) := do
  let options ← options? allowed args
  if (options.map Prod.fst).Nodup then some options else none

/-- A whole number of 64 bits, which may have a plus sign. -/
def number? (s : String) : Option Nat :=
  let digits := match s.toList with
    | '+' :: digits => digits
    | digits => digits
  let n := Numeral.natOfDigits digits
  if digits ≠ [] ∧ digits.all Char.isDigit ∧ n < UInt64.size then some n else none

/-! ### Commands -/

/-- The scene that is taken when none is named. -/
def defaultScene : String := "demo_scene"

/-- The command of a list of arguments; none if they are not understood. -/
def parse? : List String → Option Command
  | [] => none
  | "shader" :: args => do
    let options ← distinctOptions? [.fixture, .fragment, .precision] args
    let places ← number? ((options.lookup .precision).getD "4")
    return .shader ((options.lookup .fixture).getD defaultScene)
      (options.lookup .fragment).isSome places
  | "ir" :: args => do
    let options ← distinctOptions? [.fixture] args
    return .canonical ((options.lookup .fixture).getD defaultScene)
  | "digest" :: args => do
    let _ ← distinctOptions? [] args
    return .digests
  | "list" :: args => do
    let _ ← distinctOptions? [] args
    return .list
  | arg :: _ =>
    match arg.toList with
    | '-' :: 'V' :: _ => some .version
    | _ => if arg = "--version" then some .version else none

/-! ### Running -/

/-- Lines that end the program with an error. -/
def failure (lines : List String) : Outcome :=
  { status := 1, stderr := String.join (lines.map (· ++ "\n")) }

/-- Lines on the standard output. -/
def success (lines : List String) : Outcome :=
  { status := 0, stdout := String.join (lines.map (· ++ "\n")) }

/-- The built-in scene of a name, if it is well formed. -/
def load (name : String) : Except Outcome (Node Float32) :=
  match Scene.ofName? name with
  | none =>
    .error (failure ["Unknown fixture: " ++ name,
      "Available: " ++ String.intercalate ", " Scene.names])
  | some tree =>
    match tree.validate with
    | .error defect => .error (failure ["Invalid scene " ++ name ++ ": " ++ defect.message])
    | .ok () => .ok tree

/-- A text filled up with blanks on the right. -/
def padRight (width : Nat) (s : String) : String :=
  s ++ String.ofList (List.replicate (width - s.length) ' ')

/-- A text filled up with blanks on the left. -/
def padLeft (width : Nat) (s : String) : String :=
  String.ofList (List.replicate (width - s.length) ' ') ++ s

/-- The line of a scene in the list of fingerprints. -/
def digestLine (name : String) (tree : Node Float32) : String :=
  padRight 18 name ++ " " ++ fingerprint (some tree)

/-- The line of a scene in the list of sizes. -/
def listLine (name : String) (tree : Node Float32) : String :=
  padRight 18 name ++ " nodes: " ++ padLeft 3 (Nat.repr tree.size) ++ "  primitives: " ++
    padLeft 3 (Nat.repr (Node.primitives (some tree)).length) ++ "  root: " ++ tree.kind.name

/-- The lines of all built-in scenes. -/
def forScenes (line : String → Node Float32 → String) : Except Outcome Outcome := do
  return success (← Scene.names.mapM fun name => do return line name (← load name))

/-- Run a command; an outcome that stops it early comes as an error. -/
def execute : Command → Except Outcome Outcome
  | .shader scene fragment places => do
    let program := Shader.Program.ofScene ⟨places, sentinel⟩ (some (← load scene))
    return success [if fragment then program.fragmentShader else program.source]
  | .canonical scene => do
    return success [(Flat.ofScene (some (← load scene))).canonical]
  | .digests => forScenes digestLine
  | .list => forScenes listLine
  | .version => .ok (success ["precision-field " ++ version])

/-- Run the program on its arguments. Arguments that are not understood have the status 2. -/
def run (args : List String) : Outcome :=
  match parse? args with
  | none => { status := 2 }
  | some command =>
    match execute command with
    | .ok outcome => outcome
    | .error outcome => outcome

end DistanceField.CommandLine
