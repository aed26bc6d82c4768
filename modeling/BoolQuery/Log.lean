import BoolQuery.Palette

/-! Log events, the filters that choose among them, and the lines they are written as. -/
namespace BoolQuery.Log

section Levels

/-- How much is logged; each level includes those before it. -/
inductive Level
  | off
  | error
  | warn
  | info
  | debug
  | trace
  deriving DecidableEq, Repr

namespace Level

def all : List Level := [.off, .error, .warn, .info, .debug, .trace]

def name : Level → String
  | .off => "off"
  | .error => "error"
  | .warn => "warn"
  | .info => "info"
  | .debug => "debug"
  | .trace => "trace"

def rank : Level → Nat
  | .off => 0
  | .error => 1
  | .warn => 2
  | .info => 3
  | .debug => 4
  | .trace => 5

def ofName? (text : String) : Option Level := all.find? fun level => level.name = text.toLower

/-- The level that a filter names, by its name or by its rank. -/
def ofText? (text : String) : Option Level :=
  all.find? fun level => level.name = text.toLower || toString level.rank = text

def label : Level → String
  | .off => "  OFF"
  | .error => "ERROR"
  | .warn => " WARN"
  | .info => " INFO"
  | .debug => "DEBUG"
  | .trace => "TRACE"

def start : Level → String
  | .off => ""
  | .error => "\x1b[31m"
  | .warn => "\x1b[33m"
  | .info => "\x1b[32m"
  | .debug => "\x1b[34m"
  | .trace => "\x1b[35m"

end Level
end Levels

section Events

structure Event where
  target : String
  level : Level
  message : String
  fields : List (String × String) := []
  deriving DecidableEq, Repr

/-- A control character of a message, spelled out when a terminal could take it for a command. -/
def guardChar (c : Char) : String :=
  match c with
  | '\x1b' => "\\x1b"
  | '\x07' => "\\x07"
  | '\x08' => "\\x08"
  | '\x0c' => "\\x0c"
  | '\x7f' => "\\x7f"
  | _ =>
    if 0x80 ≤ c.toNat && c.toNat ≤ 0x9f then
      "\\u\x7b" ++ String.ofList (Nat.toDigits 16 c.toNat) ++ "\x7d"
    else c.toString

def guarded (message : String) : String :=
  message.foldl (fun out c => out ++ guardChar c) ""

def fieldText (palette : Palette) (field : String × String) : String :=
  " " ++ palette.wrap "\x1b[3m" field.1 ++ palette.wrap "\x1b[2m" "=" ++ field.2

def Event.line (palette : Palette) (event : Event) : String :=
  palette.wrap event.level.start event.level.label ++ " " ++ guarded event.message ++
    String.join (event.fields.map (fieldText palette)) ++ "\n"

end Events

section Filters

/-- A part of a filter: how much is logged by the targets that begin with a text. Without a text it
speaks of all targets. -/
structure Directive where
  target : Option String := none
  level : Level
  deriving DecidableEq, Repr

namespace Directive

def concerns (directive : Directive) (target : String) : Bool :=
  match directive.target with
  | none => true
  | some start => Text.beginsWith start target

/-- How special a directive is; the text of one that has a text counts by its bytes. -/
def weight (directive : Directive) : Nat :=
  match directive.target with
  | none => 0
  | some start => start.utf8ByteSize + 1

def isTargetChar (c : Char) : Bool := c.isAlphanum || c = '-' || c = ':' || c = '_'

def isTarget (text : String) : Bool := text ≠ "" && text.toList.all isTargetChar

/-- Reads a level, a target, or a target with a level behind an equals sign. A target without a
level logs everything. -/
def ofText? (text : String) : Option Directive :=
  match text.splitOn "=" with
  | [word] =>
    match Level.ofText? word with
    | some level => some ⟨none, level⟩
    | none => if isTarget word then some ⟨some word, .trace⟩ else none
  | [target, level] =>
    if isTarget target then
      if level = "" then some ⟨some target, .trace⟩
      else (Level.ofText? level).map fun level => ⟨some target, level⟩
    else none
  | _ => none

end Directive

structure Filter where
  directives : List Directive
  deriving DecidableEq, Repr

namespace Filter

def everything (level : Level) : Filter := ⟨[⟨none, level⟩]⟩

/-- The directive that decides about a target: of those that speak of it the most special one, and of
equally special ones the last. -/
def decisive? (filter : Filter) (target : String) : Option Directive :=
  filter.directives.foldl (fun best directive =>
    if directive.concerns target &&
        (best.map Directive.weight).all (fun weight => weight ≤ directive.weight)
    then some directive else best) none

def passes (filter : Filter) (event : Event) : Bool :=
  match filter.decisive? event.target with
  | some directive => event.level.rank ≤ directive.level.rank
  | none => false

/-- Reads directives between commas. Without any directive only errors are logged. -/
def ofText? (text : String) : Option Filter := do
  let directives ← ((text.splitOn ",").filter (· ≠ "")).mapM Directive.ofText?
  return if directives = [] then everything .error else ⟨directives⟩

/-- The filter of a run: the one that the environment asks for if it can be read, else the one of the
verbosity, else the configured level. -/
def choose (asked : Option String) (verbosity : Nat) (configured : String) : Filter :=
  match asked.bind ofText?, verbosity with
  | some filter, _ => filter
  | none, 0 => everything ((Level.ofName? configured).getD .warn)
  | none, 1 => everything .debug
  | none, _ => everything .trace

end Filter
end Filters
end BoolQuery.Log
