import BoolQuery.Command.Arguments
import BoolQuery.Settings.Discovery
import BoolQuery.Settings.Template
import BoolQuery.Token.Listing

/-! What commands print and change. -/
namespace BoolQuery

open FileTree (Path)

section Surroundings

structure Surroundings where
  tree : FileTree
  folder : Path
  home : Path
  highlighter : Highlighter
  logFilter : Option String := none

inductive Printed
  | result (text : String)
  | remark (text : String)
  deriving DecidableEq, Repr

structure Outcome where
  exit : Nat
  printed : List Printed
  tree : FileTree

namespace Outcome

def results (outcome : Outcome) : String :=
  String.join <| outcome.printed.map fun
    | .result text => text
    | .remark _ => ""

def remarks (outcome : Outcome) : String :=
  String.join <| outcome.printed.map fun
    | .result _ => ""
    | .remark text => text

end Outcome
end Surroundings

section Reports

structure Report where
  succeeded : Bool := true
  printed : List Printed := []
  deriving DecidableEq, Repr

/-- What commands share: the settings and their files, and how things are printed. -/
structure Context where
  settings : Settings := {}
  files : List Path := []
  palette : Palette
  highlighter : Highlighter
  filter : Log.Filter

def Context.highlight (context : Context) (language : Language) (code : String) : String :=
  context.palette.highlight context.highlighter language code

def Context.log (context : Context) (event : Log.Event) : List Printed :=
  if context.filter.passes event then [.remark (event.line context.palette)] else []

def Report.failure (remarks : List String) : Report := ⟨false, remarks.map .remark⟩

end Reports

section Queries

def parseEvents (query : String) (limit : Nat) : List Log.Event :=
  let rejected (error : QueryError) : Log.Event :=
    { target := "qs_query", level := .debug, message := "rejected query"
      fields := [("error", error.message)] }
  match tokenize query with
  | .error error => [rejected error]
  | .ok tokens =>
    { target := "qs_query", level := .debug, message := "tokenized query"
      fields := [("tokens", toString tokens.length)] } ::
      match parse query limit with
      | .error error => [rejected error]
      | .ok condition =>
        [{ target := "qs_query", level := .trace, message := "parsed query"
           fields := [("depth", toString condition.depth)] }]

def Context.logParse (context : Context) (query : String) (limit : Nat) : List Printed :=
  (parseEvents query limit).flatMap context.log

def Context.complaint (context : Context) (query : String) (error : QueryError) : Printed :=
  .remark (error.renderIn context.palette query)

def Context.remarksOn (context : Context) (limit : Nat) (query : String) : List Printed :=
  context.logParse query limit ++
    match parse query limit with
    | .ok _ => []
    | .error error => [context.complaint query error]

def readable (limit : Nat) (queries : List String) : List (String × Condition) :=
  queries.filterMap fun query =>
    match parse query limit with
    | .ok condition => some (query, condition)
    | .error _ => none

end Queries

section Parse

def Format.label : Format → String
  | .tree => "Tree"
  | .json => "Json"
  | .query => "Query"

/-- The log events before queries are read: a format in the settings that is not known, and what is
used. -/
def formatEvents (settings : Settings) (asked : Option Format) (limit : Nat) : List Log.Event :=
  (if asked.isNone && (Format.ofName? settings.format).isNone then
    [{ target := "qs", level := .debug, message := "unknown configured format, using tree"
       fields := [("format", settings.format)] }]
  else []) ++
    [{ target := "qs", level := .debug, message := "parsing queries"
       fields := [("format", (settings.chosenFormat asked).label), ("max_depth", toString limit)] }]

/-- Conditions one after the other. Among several queries a tree is labelled with its query. -/
def renderEach (palette : Palette) (highlighter : Highlighter) (format : Format) (labelled : Bool)
    (parsed : List (String × Condition)) : Except TooDeepForJson String :=
  parsed.foldlM (fun out (query, condition) => do
    let label := if labelled && format = .tree then palette.paint .strong query ++ "\n" else ""
    return out ++ label ++ (← renderCondition palette highlighter format condition)) ""

/-- Prints the conditions of queries. The queries that cannot be read are told, and the others are
printed. -/
def Context.runParse (context : Context) (queries : List String) (asked : Option Format)
    (maxDepth : Option Nat) : Report :=
  let limit := context.settings.chosenLimit maxDepth
  let format := context.settings.chosenFormat asked
  let several := queries.length > 1
  let parsed := readable limit queries
  let remarks := (formatEvents context.settings asked limit).flatMap context.log ++
    queries.flatMap (context.remarksOn limit)
  let rendered :=
    if format = .json && several then renderBatch context.palette context.highlighter parsed
    else renderEach context.palette context.highlighter format several parsed
  match rendered with
  | .ok text => ⟨parsed.length = queries.length, remarks ++ [.result text]⟩
  | .error refusal =>
    ⟨false, remarks ++ [.remark ("error: failed to serialize JSON: " ++ refusal.message ++ "\n")]⟩

end Parse

section Check

def Context.checkOne (context : Context) (limit : Nat) (quiet : Bool) (query : String) :
    List Printed :=
  context.remarksOn limit query ++
    match parse query limit with
    | .ok _ =>
      if quiet then [] else [.result (context.palette.paint .success "ok" ++ " " ++ query ++ "\n")]
    | .error _ => []

def Context.runCheck (context : Context) (queries : List String) (quiet : Bool)
    (maxDepth : Option Nat) : Report :=
  let limit := context.settings.chosenLimit maxDepth
  let failures := queries.length - (readable limit queries).length
  let count := toString failures ++ " of " ++ toString queries.length ++ " queries failed"
  ⟨failures = 0, queries.flatMap (context.checkOne limit quiet) ++
    if failures ≠ 0 && queries.length > 1 then
      [.remark (context.palette.paint .warning count ++ "\n")]
    else []⟩

end Check

section Tokens

def Context.runTokens (context : Context) (query : String) (json : Bool) : Report :=
  match tokenize query with
  | .error error => ⟨false, [context.complaint query error]⟩
  | .ok tokens =>
    ⟨true, [.result ((if json then Token.listJson tokens else (Token.table tokens).draw) ++ "\n")]⟩

end Tokens

section Config

def Context.sources (context : Context) : List String :=
  if context.files.isEmpty then ["# no config files found, showing defaults"]
  else context.files.map fun file => "# " ++ file.text

def Context.runConfig (context : Context) : Report where
  printed :=
    (context.sources.map fun line => .result (context.palette.paint .dim line ++ "\n")) ++
      [.result (context.highlight .toml context.settings.toToml)] ++
      context.settings.warnings.map fun warning =>
        .remark (context.palette.paint .warning "warning:" ++ " " ++ warning.message ++ "\n")

end Config

section Init

def Context.created (context : Context) (file : Path) (template : String) : List Printed :=
  [.result ("Created " ++ file.text ++ "\n"), .result "\n",
    .result (context.palette.paint .strong "Configuration written:" ++ "\n")] ++
    (Text.lines (context.highlight .toml template)).map fun line => .result ("  " ++ line ++ "\n")

/-- Writes a settings file. In the home folder it is always the file of the user. A file that is there
already is left alone unless it is to be replaced. -/
def Context.runInit (context : Context) (around : Surroundings) (forUser force : Bool) :
    Report × FileTree :=
  -- in the home folder the file of a project would be the file of the user
  let forUser := forUser || around.folder = around.home
  let file := Settings.fileIn (if forUser then around.home else around.folder)
  let template := if forUser then Settings.Template.forUser else Settings.Template.forProject
  if around.tree.has file && !force then
    (Report.failure ["error: configuration file already exists: " ++ file.text ++ "\n",
      "use --force to overwrite\n"], around.tree)
  else match around.tree.writeText file template with
    | .error fault =>
      (Report.failure ["error: failed to write " ++ file.text ++ ": " ++ fault.message ++ "\n"],
        around.tree)
    | .ok tree => (⟨true, context.created file template⟩, tree)

end Init

section Run

/-- The settings of a run and their files. Writing a settings file does not need any, so that it works
next to files that cannot be used. -/
def Surroundings.load (around : Surroundings) (command : Command) :
    Except Settings.LoadFault (Settings × List Path) :=
  match command with
  | .init _ _ => .ok ({}, [])
  | _ => Settings.inForce around.tree around.home around.folder

/-- The log lines of warnings about the settings. The command that prints the settings tells them on
its own. -/
def Context.logWarnings (context : Context) (command : Command) : List Printed :=
  match command with
  | .config => []
  | _ => context.settings.warnings.flatMap fun warning =>
    context.log { target := "qs", level := .warn, message := warning.message }

def Context.run (context : Context) (around : Surroundings) : Command → Report × FileTree
  | .parse queries format maxDepth => (context.runParse queries format maxDepth, around.tree)
  | .check queries quiet maxDepth => (context.runCheck queries quiet maxDepth, around.tree)
  | .tokens query json => (context.runTokens query json, around.tree)
  | .init forUser force => context.runInit around forUser force
  | .config => (context.runConfig, around.tree)

def Invocation.context (invocation : Invocation) (around : Surroundings) (settings : Settings)
    (files : List Path) : Context where
  settings := settings
  files := files
  palette := ⟨settings.color && !invocation.noColor⟩
  highlighter := around.highlighter
  filter := Log.Filter.choose around.logFilter invocation.verbosity settings.level

def Invocation.run (invocation : Invocation) (around : Surroundings) : Outcome :=
  match around.load invocation.command with
  | .error fault =>
    ⟨1, [.remark ("error: failed to load configuration: " ++ fault.message ++ "\n")], around.tree⟩
  | .ok (settings, files) =>
    let context := invocation.context around settings files
    let (report, tree) := context.run around invocation.command
    ⟨if report.succeeded then 0 else 1,
      context.logWarnings invocation.command ++ report.printed, tree⟩

def Surroundings.run (around : Surroundings) (arguments : List String) : Outcome :=
  match Arguments.read arguments with
  | .ok invocation => invocation.run around
  | .error stop =>
    if stop.isAnswer then ⟨0, [.result stop.message], around.tree⟩
    else ⟨2, [.remark stop.message], around.tree⟩

end Run
end BoolQuery
