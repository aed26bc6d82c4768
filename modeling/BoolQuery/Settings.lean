import BoolQuery.Log
import BoolQuery.Output
import BoolQuery.Parser
import BoolQuery.Toml.Writer

/-! The settings in force, and warnings about settings that will not do what they seem to say. -/
namespace BoolQuery

/-- The settings. The output format and the log level are kept as they were written. -/
structure Settings where
  maxDepth : Nat := defaultLimit
  format : String := Format.tree.name
  color : Bool := true
  level : String := Log.Level.warn.name
  deriving DecidableEq, Repr

namespace Settings

section Choices

/-- The output format: the one that was asked for, else the one in the settings, else the tree. -/
def chosenFormat (settings : Settings) (asked : Option Format) : Format :=
  (asked.or (Format.ofName? settings.format)).getD .tree

def chosenLimit (settings : Settings) (asked : Option Nat) : Nat := asked.getD settings.maxDepth

end Choices

section Warnings

/-- A setting that is read without an error but does not work as it seems. -/
inductive Warning
  | zeroMaxDepth
  | unknownLevel (level : String)
  | unknownFormat (format : String)
  deriving DecidableEq, Repr

def levelNames : List String := Log.Level.all.map Log.Level.name

def formatNames : List String := [Format.tree, .json, .query].map Format.name

def unknownText (kind value : String) (expected : List String) : String :=
  "unknown " ++ kind ++ " '" ++ value ++ "' (expected one of: " ++ ", ".intercalate expected ++ ")"

def Warning.message : Warning → String
  | .zeroMaxDepth => "parser max_depth is 0, so groups and NOT are rejected"
  | .unknownLevel level => unknownText "log level" level levelNames
  | .unknownFormat format => unknownText "output format" format formatNames

def Warning.value? : Warning → Option String
  | .zeroMaxDepth => none
  | .unknownLevel value | .unknownFormat value => some value

/-- The warnings about some settings. A log level may be written in any ASCII letter case, the name
of a format may not. -/
def warnings (settings : Settings) : List Warning :=
  (if settings.maxDepth = 0 then [.zeroMaxDepth] else []) ++
    (if (Log.Level.ofName? settings.level).isNone then [.unknownLevel settings.level] else []) ++
    (if (Format.ofExactName? settings.format).isNone then [.unknownFormat settings.format] else [])

end Warnings

def toToml (settings : Settings) : String :=
  "[parser]\nmax_depth = " ++ toString settings.maxDepth ++
    "\n\n[output]\nformat = " ++ Toml.stringText settings.format ++
    "\ncolor = " ++ toString settings.color ++
    "\n\n[log]\nlevel = " ++ Toml.stringText settings.level ++ "\n"

end Settings
end BoolQuery
