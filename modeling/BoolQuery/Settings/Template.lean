import BoolQuery.Text

/-! Settings files to start from. Every line of them is a comment, so a new file changes nothing until
its user takes a comment mark away. -/
namespace BoolQuery.Settings.Template

/-- A line as a comment. Empty lines and comments stay as they are. -/
def commentLine (line : String) : String :=
  if line = "" || Text.beginsWith "#" line then line else "# " ++ line

def comment (text : String) : String :=
  String.join ((Text.lines text).map fun line => commentLine line ++ "\n")

def projectSettings : String :=
  "# qs configuration
#
# qs looks for .qs.toml in the current directory and every parent, then in
# your home directory. Closer files take precedence.

# Stop looking in parent directories and ~/.qs.toml.
root = false

[parser]
# Maximum nesting of parenthesized groups and NOT operators.
max_depth = 64

[output]
# Default rendering for \x60qs parse\x60: tree, json or query.
format = \"tree\"
# Colorize output. --no-color overrides this.
color = true
"

def userSettings : String :=
  "# qs global configuration (~/.qs.toml)
#
# Project .qs.toml files override anything set here.

[output]
# Default rendering for \x60qs parse\x60: tree, json or query.
format = \"tree\"
# Colorize output.
color = true

[log]
# Log level when QS_LOG and -v are not given: off, error, warn, info, debug, trace.
level = \"warn\"
"

def forProject : String := comment projectSettings

def forUser : String := comment userSettings

end BoolQuery.Settings.Template
