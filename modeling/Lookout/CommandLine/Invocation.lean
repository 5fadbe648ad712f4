import Lookout.CommandLine.Grammar

/-!
# Invocations

What the program can be asked to do, read from its arguments.
-/

namespace Lookout.CommandLine

/-- What the program can be asked to do. -/
inductive Command where
  | migrate
  | version
  | logs (limit : Int) (before : Option Int)
  | invites (count : Int)
  | cleanupInvites
  deriving DecidableEq, Repr

/-- A command with the level of logging that it is to run under. -/
structure Invocation where
  level : Option String
  command : Command
  deriving DecidableEq, Repr

/-- The name of the program. -/
def programName : String := "threadwatch"

/-- The program itself. -/
def mainGrammar : Grammar where
  program := programName
  options := [⟨"--log-level", .text⟩]
  takesCommand := true

/-- A command by its name, its options, and what to make of their values. -/
structure CommandSpec where
  name : String
  options : List OptionSpec := []
  ofGiven : Given → Command

/-- The commands of the program. -/
def commands : List CommandSpec :=
  [{ name := "migrate", ofGiven := fun _ => .migrate },
    { name := "version", ofGiven := fun _ => .version },
    { name := "logs", options := [⟨"--num", .integer⟩, ⟨"--last-id", .integer⟩],
      ofGiven := fun given =>
        .logs ((given.integer? "--num").getD 100) (given.integer? "--last-id") },
    { name := "invites", options := [⟨"--count", .integer⟩],
      ofGiven := fun given => .invites ((given.integer? "--count").getD 1) },
    { name := "cleanup-invites", ofGiven := fun _ => .cleanupInvites }]

/-- The arguments of a command. -/
def CommandSpec.grammar (spec : CommandSpec) : Grammar where
  program := s!"{programName} {spec.name}"
  options := spec.options

/-- Read the arguments of the program. Arguments that nobody asked for are complained about
last, those before the command first. -/
def Invocation.ofArguments (arguments : List String) : Except Usage Invocation := do
  let given ← mainGrammar.read arguments
  match given.command with
  | none => mainGrammar.refuse "the following arguments are required: command"
  | some (name, rest) =>
      match commands.find? fun spec => spec.name == name with
      | none =>
          let choices := ", ".intercalate (commands.map fun spec => Text.quoted spec.name)
          mainGrammar.refuseArgument "command"
            s!"invalid choice: {Text.quoted name} (choose from {choices})"
      | some spec =>
          let inner ← spec.grammar.read rest
          match given.extras ++ inner.extras with
          | [] => return { level := given.text? "--log-level", command := spec.ofGiven inner }
          | extras => mainGrammar.refuse ("unrecognized arguments: " ++ " ".intercalate extras)

end Lookout.CommandLine
