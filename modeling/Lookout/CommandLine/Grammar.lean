import Lookout.Text.Integer
import Lookout.Text.Quoted

/-!
# Command line grammar

A program has options that take one value each, a help option, and possibly commands with
options of their own. Options may be cut short as long as they stay unambiguous, and take
their value after an equals sign or as the next argument. Negative numbers are values.
-/

namespace Lookout.CommandLine

/-- What the value of an option has to be. -/
inductive ValueType where
  | text
  | integer
  deriving DecidableEq, Repr

/-- An option that takes a value. -/
structure OptionSpec where
  name : String
  type : ValueType
  deriving DecidableEq, Repr

/-- A program or one of its commands. -/
structure Grammar where
  /-- The name that messages start with. -/
  program : String
  options : List OptionSpec
  /-- Whether the first argument that is no option starts a command. -/
  takesCommand : Bool := false

/-- Why a command line is not carried out. -/
inductive Usage where
  /-- Help was asked for. -/
  | help
  /-- A program cannot make sense of its arguments. -/
  | refused (program text : String)
  deriving DecidableEq, Repr

namespace Usage

/-- The status that a program ends with. -/
def status : Usage → Nat
  | help => 0
  | refused .. => 2

/-- The message that a program ends with, if it has one. -/
def message? : Usage → Option String
  | help => none
  | refused program text => some s!"{program}: error: {text}"

end Usage

/-- What an option may stand for. -/
inductive Meaning where
  | help
  | option (spec : OptionSpec)
  deriving DecidableEq, Repr

/-- How an argument reads on its own. -/
inductive Argument where
  | value
  /-- Two dashes: everything after them is a value. -/
  | separator
  /-- A meaning, with what is attached to it in the same argument. -/
  | known (meaning : Meaning) (attached : Option String)
  | unknown
  deriving DecidableEq, Repr

/-- The value of an option. -/
inductive OptionValue where
  | text (value : String)
  | integer (value : Int)
  deriving DecidableEq, Repr

/-- What is known of a command line once it is read. -/
structure Given where
  values : List (String × OptionValue) := []
  /-- Arguments that nobody asked for. -/
  extras : List String := []
  /-- A command with its arguments. -/
  command : Option (String × List String) := none

namespace Grammar

/-- The spellings of options with their meanings. -/
def spellings (grammar : Grammar) : List (String × Meaning) :=
  [("-h", .help), ("--help", .help)] ++ grammar.options.map fun spec => (spec.name, .option spec)

/-- The name of a meaning in messages. -/
def nameOf : Meaning → String
  | .help => "-h/--help"
  | .option spec => spec.name

/-- A refusal of an argument. -/
def refuse {α : Type} (grammar : Grammar) (text : String) : Except Usage α :=
  .error (.refused grammar.program text)

/-- A refusal of what was given to an option. -/
def refuseArgument {α : Type} (grammar : Grammar) (name text : String) : Except Usage α :=
  grammar.refuse s!"argument {name}: {text}"

/-- The text up to the first equals sign, and what follows it. -/
def splitEquals (text : List Char) : List Char × Option (List Char) :=
  match text.dropWhile (· ≠ '=') with
  | [] => (text, none)
  | _ :: rest => (text.takeWhile (· ≠ '='), some rest)

/-- Whether a text is a decimal number, whole or with a fraction, after a dash. -/
def isNegativeNumber (text : List Char) : Bool :=
  let isDigit (character : Char) := (Text.digitValue? character).isSome
  match text with
  | '-' :: number =>
      let number := if number.getLast? = some '\n' then number.dropLast else number
      match number.dropWhile isDigit with
      | [] => !number.isEmpty
      | '.' :: fraction => !fraction.isEmpty && fraction.all isDigit
      | _ => false
  | _ => false

/-- The spellings that an argument may be short for, with what is attached to it. Two
dashes start a long name, which ends at an equals sign; after one dash the rest is
attached to the letter. -/
def candidates (grammar : Grammar) (text : List Char) :
    List (String × Meaning × Option String) :=
  match text with
  | '-' :: '-' :: _ =>
      let (front, attached) := splitEquals text
      (grammar.spellings.filter fun spelling => spelling.1.toList.take front.length == front).map
        fun spelling => (spelling.1, spelling.2, attached.map String.ofList)
  | dash :: letter :: rest =>
      (grammar.spellings.filter fun spelling => spelling.1 == String.ofList [dash, letter]).map
        fun spelling => (spelling.1, spelling.2, some (String.ofList rest))
  | _ => []

/-- How an argument reads on its own. -/
def classify (grammar : Grammar) (text : String) : Except Usage Argument :=
  let characters := text.toList
  let (front, attached) := splitEquals characters
  if characters.head? ≠ some '-' then .ok .value
  else match grammar.spellings.lookup text with
  | some meaning => .ok (.known meaning none)
  | none =>
      if characters.length = 1 then .ok .value
      else match attached, grammar.spellings.lookup (String.ofList front) with
      | some rest, some meaning => .ok (.known meaning (some (String.ofList rest)))
      | _, _ =>
          match grammar.candidates characters with
          | [(_, meaning, attached)] => .ok (.known meaning attached)
          | [] =>
              if isNegativeNumber characters || characters.contains ' ' then .ok .value
              else .ok .unknown
          | several =>
              grammar.refuse <| s!"ambiguous option: {text} could match " ++
                ", ".intercalate (several.map (·.1))

/-- How each argument reads; after two dashes everything is a value. -/
def classifyAll (grammar : Grammar) : List String → Except Usage (List (String × Argument))
  | [] => .ok []
  | text :: rest =>
      if text = "--" then .ok ((text, .separator) :: rest.map fun value => (value, .value))
      else do
        let argument ← grammar.classify text
        return (text, argument) :: (← grammar.classifyAll rest)

/-- What comes of help with something attached to it: further letters may ask for help
again, and nothing else may be attached. -/
def attachedToHelp (grammar : Grammar) (attached : List Char) : Usage :=
  let refused := .refused grammar.program <|
    s!"argument {nameOf .help}: ignored explicit argument {Text.quoted (String.ofList attached)}"
  match attached with
  | ['h'] => .help
  | 'h' :: rest => grammar.attachedToHelp rest
  | _ => refused

/-- The value of an option, read from a text. -/
def readValue (grammar : Grammar) (spec : OptionSpec) (text : String) : Except Usage OptionValue :=
  match spec.type with
  | .text => .ok (.text text)
  | .integer =>
      match Text.readInteger? text with
      | some number => .ok (.integer number)
      | none => grammar.refuseArgument spec.name s!"invalid int value: {Text.quoted text}"

/-- Go through arguments that are read on their own. -/
def scan (grammar : Grammar) : List (String × Argument) → Given → Except Usage Given
  | [], given => .ok given
  | (text, .value) :: rest, given =>
      if grammar.takesCommand then .ok { given with command := some (text, rest.map (·.1)) }
      else grammar.scan rest { given with extras := given.extras ++ [text] }
  | (text, .separator) :: rest, given =>
      if grammar.takesCommand && !rest.isEmpty then
        .ok { given with command := some (text, rest.map (·.1)) }
      else grammar.scan rest { given with extras := given.extras ++ [text] }
  | (text, .unknown) :: rest, given =>
      grammar.scan rest { given with extras := given.extras ++ [text] }
  | (_, .known .help none) :: _, _ => .error .help
  | (text, .known .help (some attached)) :: _, _ =>
      if text.toList.take 2 = ['-', '-'] then
        grammar.refuseArgument (nameOf .help)
          s!"ignored explicit argument {Text.quoted attached}"
      else .error (grammar.attachedToHelp attached.toList)
  | (_, .known (.option spec) (some attached)) :: rest, given => do
      let value ← grammar.readValue spec attached
      grammar.scan rest { given with values := (spec.name, value) :: given.values }
  | (_, .known (.option spec) none) :: (text, .value) :: rest, given => do
      let value ← grammar.readValue spec text
      grammar.scan rest { given with values := (spec.name, value) :: given.values }
  | (_, .known (.option spec) none) :: _, _ =>
      grammar.refuseArgument spec.name "expected one argument"

/-- Read a command line. -/
def read (grammar : Grammar) (arguments : List String) : Except Usage Given := do
  grammar.scan (← grammar.classifyAll arguments) {}

end Grammar

namespace Given

/-- The text that was last given to an option. -/
def text? (given : Given) (name : String) : Option String :=
  match given.values.lookup name with
  | some (.text value) => some value
  | _ => none

/-- The number that was last given to an option. -/
def integer? (given : Given) (name : String) : Option Int :=
  match given.values.lookup name with
  | some (.integer value) => some value
  | _ => none

end Given

end Lookout.CommandLine
