import BoolQuery.Output

/-! What the program can be asked to do, and how that is read from the arguments of the command line.

An argument that starts with a dash is a cluster of short names, one that starts with two dashes a long
name, and all others are operands or values. The value of an option is looked at when the next option,
the next operand or the end is reached, so a name that is not known is told before a bad value in front
of it. -/
namespace BoolQuery

/-- A command. A limit or a format that is not given comes from the settings; a quiet check tells only the
queries that cannot be read. -/
inductive Command
  | parse (queries : List String) (format : Option Format) (maxDepth : Option Nat)
  | check (queries : List String) (quiet : Bool) (maxDepth : Option Nat)
  | tokens (query : String) (json : Bool)
  | init (forUser force : Bool)
  | config
  deriving DecidableEq, Repr

/-- A command with what holds for all commands. More log output can be asked for up to 255 times. -/
structure Invocation where
  verbosity : Nat := 0
  noColor : Bool := false
  command : Command
  deriving DecidableEq, Repr

namespace Arguments

section Vocabulary

inductive Switch
  | help
  | version
  | verbose
  | noColor
  | quiet
  | json
  | forUser
  | force
  deriving DecidableEq, Repr

inductive Parameter
  | format
  | maxDepth
  deriving DecidableEq, Repr

def Switch.long : Switch → String
  | .help => "help"
  | .version => "version"
  | .verbose => "verbose"
  | .noColor => "no-color"
  | .quiet => "quiet"
  | .json => "json"
  | .forUser => "global"
  | .force => "force"

def Switch.short? : Switch → Option Char
  | .help => some 'h'
  | .version => some 'V'
  | .verbose => some 'v'
  | .quiet => some 'q'
  | _ => none

def Parameter.long : Parameter → String
  | .format => "format"
  | .maxDepth => "max-depth"

def Parameter.short? : Parameter → Option Char
  | .format => some 'f'
  | .maxDepth => none

/-- Where an argument stands: in front of the command, or behind the name of one. -/
inductive Scope
  | program
  | parse
  | check
  | tokens
  | init
  | config
  deriving DecidableEq, Repr

namespace Scope

def switches : Scope → List Switch
  | .program => [.verbose, .noColor, .help, .version]
  | .parse | .config => [.verbose, .noColor, .help]
  | .check => [.verbose, .noColor, .help, .quiet]
  | .tokens => [.verbose, .noColor, .help, .json]
  | .init => [.verbose, .noColor, .help, .forUser, .force]

def parameters : Scope → List Parameter
  | .parse => [.format, .maxDepth]
  | .check => [.maxDepth]
  | _ => []

def admits (scope : Scope) (count : Nat) : Bool :=
  match scope with
  | .parse | .check => true
  | .tokens => count = 0
  | _ => false

def ofName? : String → Option Scope
  | "parse" => some .parse
  | "check" => some .check
  | "tokens" => some .tokens
  | "init" => some .init
  | "config" => some .config
  | _ => none

end Scope

def helpName : String := "help"

def isCommandName (text : String) : Bool := text = helpName || (Scope.ofName? text).isSome

end Vocabulary

section Outcomes

inductive Stop
  | help
  | version
  | nothingGiven
  | missingCommand
  | unknownCommand (name : String)
  | unknownArgument (text : String)
  | missingOperand
  | missingValue (parameter : Parameter)
  | unknownFormat (value : String)
  | badNumber (value : String)
  | unwantedValue (switch : Switch) (value : String)
  /-- An option that counts once was given twice in one scope. -/
  | repeated (name : String)
  deriving DecidableEq, Repr

def Stop.isAnswer : Stop → Bool
  | .help | .version => true
  | _ => false

end Outcomes

section Reading

structure Given where
  verbosity : Nat := 0
  switches : List Switch := []
  format : Option Format := none
  maxDepth : Option Nat := none
  operands : List String := []
  /-- A parameter whose value was not looked at yet, with the value if it was there. -/
  pending : Option (Parameter × Option String) := none
  ended : Bool := false
  deriving DecidableEq, Repr

def natural? (text : String) : Option Nat :=
  let digits := match text.toList with
    | '+' :: rest => rest
    | all => all
  if digits ≠ [] && digits.all Char.isDigit then
    let value := digits.foldl (fun value c => 10 * value + (c.toNat - '0'.toNat)) 0
    if value < Width.full64 then some value else none
  else none

namespace Given

def keep (given : Given) (parameter : Parameter) (value : String) : Except Stop Given :=
  match parameter with
  | .format =>
    if given.format.isSome then .error (.repeated parameter.long)
    else match Format.ofExactName? value with
      | some format => .ok { given with format := some format }
      | none => .error (.unknownFormat value)
  | .maxDepth =>
    if given.maxDepth.isSome then .error (.repeated parameter.long)
    else match natural? value with
      | some limit => .ok { given with maxDepth := some limit }
      | none => .error (.badNumber value)

def settle (given : Given) : Except Stop Given :=
  match given.pending with
  | none => .ok given
  | some (parameter, none) => .error (.missingValue parameter)
  | some (parameter, some value) => { given with pending := none }.keep parameter value

def turnOn (given : Given) (switch : Switch) : Except Stop Given := do
  let given ← given.settle
  match switch with
  | .help => throw .help
  | .version => throw .version
  -- the only switch that counts
  | .verbose => return { given with verbosity := min 255 (given.verbosity + 1) }
  | _ =>
    if given.switches.contains switch then throw (.repeated switch.long)
    else return { given with switches := switch :: given.switches }

def supply (given : Given) (parameter : Parameter) (value : Option String) : Except Stop Given := do
  let given ← given.settle
  match value with
  | some value => given.keep parameter value
  | none => return { given with pending := some (parameter, none) }

def readLong (scope : Scope) (given : Given) (name : String) (value : Option String) :
    Except Stop Given :=
  match scope.parameters.find? (·.long = name), scope.switches.find? (·.long = name), value with
  | some parameter, _, _ => given.supply parameter value
  | none, some switch, none => given.turnOn switch
  | none, some switch, some value => .error (.unwantedValue switch value)
  | none, none, _ => .error (.unknownArgument ("--" ++ name))

def attached? : List Char → Option String
  | [] => none
  | '=' :: value => some (String.ofList value)
  | value => some (String.ofList value)

def readCluster (scope : Scope) (given : Given) : List Char → Except Stop Given
  | [] => .ok given
  | c :: rest =>
    match scope.parameters.find? (·.short? = some c), scope.switches.find? (·.short? = some c) with
    | some parameter, _ => given.supply parameter (attached? rest)
    | none, some switch => do (← given.turnOn switch).readCluster scope rest
    | none, none => .error (.unknownArgument ("-" ++ c.toString))

def addOperand (scope : Scope) (given : Given) (text : String) : Except Stop Given := do
  let given ← given.settle
  if scope.admits given.operands.length then return { given with operands := text :: given.operands }
  else if scope = .program then throw (.unknownCommand text)
  else throw (.unknownArgument text)

def splitLong (text : List Char) : String × Option String :=
  let name := String.ofList (text.takeWhile (· ≠ '='))
  match text.dropWhile (· ≠ '=') with
  | [] => (name, none)
  | _ :: value => (name, some (String.ofList value))

def step (scope : Scope) (given : Given) (text : String) : Except Stop Given :=
  if given.ended then given.addOperand scope text
  else match text.toList, given.pending with
    | ['-', '-'], _ => .ok { given with ended := true }
    | '-' :: '-' :: long, _ => given.readLong scope (splitLong long).1 (splitLong long).2
    | '-' :: c :: cluster, _ => given.readCluster scope (c :: cluster)
    -- a parameter that waits for its value takes the next argument unless that is an option
    | _, some (parameter, none) => .ok { given with pending := some (parameter, some text) }
    | _, _ => given.addOperand scope text

def command (scope : Scope) (given : Given) : Except Stop Command :=
  match scope, given.operands.reverse with
  | .parse, query :: queries => .ok (.parse (query :: queries) given.format given.maxDepth)
  | .check, query :: queries =>
    .ok (.check (query :: queries) (given.switches.contains .quiet) given.maxDepth)
  | .tokens, query :: _ => .ok (.tokens query (given.switches.contains .json))
  | .init, _ =>
    .ok (.init (given.switches.contains .forUser) (given.switches.contains .force))
  | .config, _ => .ok .config
  | .program, _ => .error .missingCommand
  | _, [] => .error .missingOperand

end Given

/-- Reads the arguments behind the name of a command. A verbosity given here replaces the one given in
front. -/
def readCommand (scope : Scope) (outer : Given) (arguments : List String) :
    Except Stop Invocation := do
  let given ← arguments.foldlM (Given.step scope) {}
  let given ← given.settle
  return {
    verbosity := if given.verbosity = 0 then outer.verbosity else given.verbosity
    noColor := outer.switches.contains .noColor || given.switches.contains .noColor
    command := ← given.command scope }

/-- What the command that asks for help comes to. The commands have no commands of their own. -/
def helpOn : List String → Stop
  | [] => .help
  | name :: rest =>
    if isCommandName name then
      match rest with
      | [] => .help
      | name :: _ => .unknownCommand name
    else .unknownCommand name

def readFrom (given : Given) : List String → Except Stop Invocation
  | [] =>
    .error (if given.verbosity = 0 && given.switches.isEmpty then .nothingGiven else .missingCommand)
  | text :: rest =>
    if given.ended then
      .error (if isCommandName text then .unknownArgument text else .unknownCommand text)
    else if text = helpName then .error (helpOn rest)
    else match Scope.ofName? text with
      | some scope => readCommand scope given rest
      | none => do readFrom (← given.step .program text) rest

def read (arguments : List String) : Except Stop Invocation := readFrom {} arguments

end Reading

section Texts

def versionText : String := "qs 0.1.0\n"

def helpText : String :=
  "Parse, check and inspect boolean query strings

Usage: qs [OPTIONS] <COMMAND>

Commands:
  parse [-f tree|json|query] [--max-depth N] <QUERIES>...
  check [-q] [--max-depth N] <QUERIES>...
  tokens [--json] <QUERY>
  init [--global] [--force]
  config
  help [COMMAND]

Options:
  -v, --verbose   Increase log verbosity
      --no-color  Disable colored output
  -h, --help      Print help
  -V, --version   Print version
"

def Stop.message : Stop → String
  | .help => helpText
  | .version => versionText
  | .nothingGiven => helpText
  | .missingCommand => "error: a command is required\n"
  | .unknownCommand name => "error: unrecognized command '" ++ name ++ "'\n"
  | .unknownArgument text => "error: unexpected argument '" ++ text ++ "'\n"
  | .missingOperand => "error: a query is required\n"
  | .missingValue parameter => "error: --" ++ parameter.long ++ " needs a value\n"
  | .unknownFormat value => "error: unknown format '" ++ value ++ "'\n"
  | .badNumber value => "error: '" ++ value ++ "' is not a number\n"
  | .unwantedValue switch value => "error: --" ++ switch.long ++ " takes no value '" ++ value ++ "'\n"
  | .repeated name => "error: --" ++ name ++ " was given twice\n"

end Texts
end Arguments
end BoolQuery
