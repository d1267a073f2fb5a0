import SupplyGate.CommandLine.Arguments
/-!
The commands: set up the database, list the templates, assess an inventory, or evaluate it against
policies. `Command.ofArguments?` reads one; there is none if the arguments do not fit.
-/
namespace SupplyGate.CommandLine

/-- What to assess, and how. -/
structure AssessRequest where
  inventoryFile : String
  contextFile : Option String
  tenant : String
  persists : Bool
  asDocument : Bool
  deriving DecidableEq

/-- What to evaluate against which policies, and how. -/
structure EvaluateRequest where
  inventoryFile : String
  policiesFile : Option String
  templates : List String
  environment : Option String
  project : Option String
  tenant : String
  persists : Bool
  asDocument : Bool
  deriving DecidableEq

inductive Command where
  | help
  | version
  | init
  | templates
  | assess (r : AssessRequest)
  | evaluate (r : EvaluateRequest)
  deriving DecidableEq

namespace Command

/-- The tenant where none is named. -/
def defaultTenant : String := "default"

def globalOptions : List OptionSpec :=
  [.flag "version" (some 'v'), .flag "verbose" none, .flag "help" none]

def plainOptions : List OptionSpec := [.flag "help" none]

/-- The options of the commands that read an inventory. -/
def inventoryOptions : List OptionSpec := plainOptions ++
  [.valued "tenant" (some 't'), .flag "persist" none, .flag "json" (some 'j')]

/-- The options of an assessment. -/
def assessOptions : List OptionSpec := inventoryOptions ++ [.valued "context" (some 'c')]

/-- The options of an evaluation. -/
def evaluateOptions : List OptionSpec := inventoryOptions ++
  [.valued "policies" (some 'p'), .valued "template" none, .valued "environment" (some 'e'),
    .valued "project" none]

/-- A file that is named; an empty name stands for none. -/
def file? (g : Given) (name : String) : Option String := (g.value? name).filter (· != "")

/-- A command without words of its own. -/
def bare? (command : Command) (args : List String) : Option Command := do
  let g ← Given.ofArguments? plainOptions true .empty args
  if g.has "help" then some help
  else if g.words.isEmpty then some command
  else none

/-- An assessment. -/
def assess? (args : List String) : Option Command := do
  let g ← Given.ofArguments? assessOptions true .empty args
  if g.has "help" then some help
  else match g.words with
    | [inventoryFile] => some <| assess {
      inventoryFile
      contextFile := file? g "context"
      tenant := (g.value? "tenant").getD defaultTenant
      persists := g.has "persist"
      asDocument := g.has "json" }
    | _ => none

/-- An evaluation. -/
def evaluate? (args : List String) : Option Command := do
  let g ← Given.ofArguments? evaluateOptions true .empty args
  if g.has "help" then some help
  else match g.words with
    | [inventoryFile] => some <| evaluate {
      inventoryFile
      policiesFile := file? g "policies"
      templates := g.values "template"
      environment := g.value? "environment"
      project := g.value? "project"
      tenant := (g.value? "tenant").getD defaultTenant
      persists := g.has "persist"
      asDocument := g.has "json" }
    | _ => none

/-- The first of the options that end everything else. -/
def atOnce? (g : Given) : Option Command :=
  g.options.findSome? fun (name, _) =>
    if name == "version" then some version else if name == "help" then some help else none

def ofArguments? (args : List String) : Option Command := do
  let g ← Given.ofArguments? globalOptions false .empty args
  match atOnce? g, g.words with
  | some command, _ => some command
  | none, "init" :: rest => bare? init rest
  | none, "templates" :: rest => bare? templates rest
  | none, "assess" :: rest => assess? rest
  | none, "evaluate" :: rest => evaluate? rest
  | none, _ => none

def files : Command → List String
  | assess r => r.inventoryFile :: r.contextFile.toList
  | evaluate r => r.inventoryFile :: r.policiesFile.toList
  | _ => []

end Command
end SupplyGate.CommandLine
