/-!
Arguments of a command line: options, which begin with a hyphen, and the words between them. An
option has a long name and perhaps a letter; letters can be joined behind one hyphen, and a value
follows its option as the next argument, behind an equals sign, or directly behind the letter. Two
hyphens end the options.
-/
namespace SupplyGate.CommandLine

structure OptionSpec where
  /-- The long name without its hyphens. -/
  name : String
  letter : Option Char
  takesValue : Bool
  deriving DecidableEq

namespace OptionSpec

/-- An option without a value. -/
def flag (name : String) (letter : Option Char) : OptionSpec := ⟨name, letter, false⟩

/-- An option with a value. -/
def valued (name : String) (letter : Option Char) : OptionSpec := ⟨name, letter, true⟩

end OptionSpec

structure Given where
  /-- The options in order, each with its value; one without a value has an empty one. -/
  options : List (String × String)
  /-- The words that are no options. -/
  words : List String
  deriving DecidableEq

namespace Given

/-- Nothing is said. -/
def empty : Given := ⟨[], []⟩

def has (g : Given) (name : String) : Bool := g.options.any (·.1 == name)

/-- The values of an option, in order. -/
def values (g : Given) (name : String) : List String :=
  (g.options.filter (·.1 == name)).map (·.2)

/-- The value of an option; the last one counts. -/
def value? (g : Given) (name : String) : Option String := (g.values name).getLast?

def withOption (g : Given) (name value : String) : Given :=
  { g with options := g.options ++ [(name, value)] }

def withWord (g : Given) (word : String) : Given := { g with words := g.words ++ [word] }

end Given

/-- What an argument with options says: all of it, or all but the value of the last option, which is
the next argument. -/
inductive OptionStep where
  | complete (g : Given)
  | needsValue (g : Given) (name : String)

namespace OptionStep

variable (specs : List OptionSpec)

/-- Letters behind one hyphen. -/
def ofLetters (g : Given) : List Char → Option OptionStep
  | [] => some (.complete g)
  | c :: rest =>
    match specs.find? (·.letter == some c) with
    | none => none
    | some spec =>
      if !spec.takesValue then ofLetters (g.withOption spec.name "") rest
      else if rest.isEmpty then some (.needsValue g spec.name)
      else some (.complete (g.withOption spec.name (String.ofList rest)))

/-- A long name, perhaps with a value behind an equals sign. -/
def ofName (g : Given) (cs : List Char) : Option OptionStep :=
  let name := String.ofList (cs.takeWhile (· != '='))
  match specs.find? (·.name == name), cs.dropWhile (· != '=') with
  | none, _ => none
  | some spec, [] =>
    some (if spec.takesValue then .needsValue g spec.name else .complete (g.withOption spec.name ""))
  | some spec, _ :: value =>
    if spec.takesValue then some (.complete (g.withOption spec.name (String.ofList value))) else none

/-- An argument that begins with a hyphen. -/
def ofArgument (g : Given) : List Char → Option OptionStep
  | '-' :: '-' :: name => ofName specs g name
  | _ :: letters => ofLetters specs g letters
  | [] => none

end OptionStep

/-- A word: a lone hyphen, or what does not begin with one. -/
def isWord (arg : String) : Bool := arg == "-" || !arg.startsWith "-"

/-- The arguments read by some options. Options may stand behind words if they are `mixed`;
otherwise the first word ends them. There is no answer if an option is unknown or lacks its value. -/
def Given.ofArguments? (specs : List OptionSpec) (mixed : Bool) (g : Given) :
    List String → Option Given
  | [] => some g
  | arg :: rest =>
    if arg == "--" then some { g with words := g.words ++ rest }
    else if isWord arg then
      if mixed then Given.ofArguments? specs mixed (g.withWord arg) rest
      else some { g with words := g.words ++ arg :: rest }
    else
      match OptionStep.ofArgument specs g arg.toList with
      | none => none
      | some (.complete g) => Given.ofArguments? specs mixed g rest
      | some (.needsValue g name) =>
        match rest with
        | value :: rest => Given.ofArguments? specs mixed (g.withOption name value) rest
        | [] => none

end SupplyGate.CommandLine
