import BoolQuery.QueryError

/-! Colored text for terminals. A palette is on or off; off, every text stays as it is. How code is cut into
pieces and which color each of them has is up to a highlighter. -/
namespace BoolQuery

section Colors

inductive Tone
  | strong
  | dim
  | success
  | warning
  | error
  deriving DecidableEq, Repr

def Tone.start : Tone → String
  | .strong => "\x1b[1m"
  | .dim => "\x1b[2m"
  | .success => "\x1b[32m"
  | .warning => "\x1b[33m"
  | .error => "\x1b[31m"

structure Color where
  red : UInt8
  green : UInt8
  blue : UInt8
  deriving DecidableEq, Repr

def Color.start (color : Color) : String :=
  "\x1b[38;2;" ++ toString color.red.toNat ++ ";" ++ toString color.green.toNat ++ ";" ++
    toString color.blue.toNat ++ "m"

inductive Language
  | toml
  | json
  deriving DecidableEq, Repr

/-- What cuts code into colored pieces. It may color them as it likes, but the pieces are the code. -/
structure Highlighter where
  pieces : Language → String → List (Color × String)
  whole : ∀ language code, String.join ((pieces language code).map Prod.snd) = code

/-- A highlighter that knows no language: all code has the color of text. -/
def Highlighter.uniform : Highlighter where
  pieces _ code := [(⟨248, 248, 242⟩, code)]
  whole _ code := by simp [String.join]

end Colors

structure Palette where
  enabled : Bool
  deriving DecidableEq, Repr

namespace Palette

def reset : String := "\x1b[0m"

def wrap (palette : Palette) (start text : String) : String :=
  if palette.enabled then start ++ text ++ reset else text

def paint (palette : Palette) (tone : Tone) (text : String) : String := palette.wrap tone.start text

def highlight (palette : Palette) (highlighter : Highlighter) (language : Language) (code : String) :
    String :=
  if palette.enabled then
    String.join ((highlighter.pieces language code).map fun (color, text) => color.start ++ text) ++ reset
  else code

section Strip

def endsSequence (c : Char) : Bool := '@' ≤ c && c ≤ '~'

inductive Place
  | text
  /-- Behind an escape character, which is text unless a bracket follows. -/
  | escape
  | sequence
  deriving DecidableEq, Repr

def stripFrom (out : String) : Place → List Char → String
  | .escape, [] => out.push '\x1b'
  | _, [] => out
  | .text, c :: rest => if c = '\x1b' then stripFrom out .escape rest else stripFrom (out.push c) .text rest
  | .escape, c :: rest =>
    if c = '[' then stripFrom out .sequence rest
    else if c = '\x1b' then stripFrom (out.push '\x1b') .escape rest
    else stripFrom ((out.push '\x1b').push c) .text rest
  | .sequence, c :: rest => stripFrom out (if endsSequence c then .text else .sequence) rest

/-- A text without control sequences. A sequence starts with an escape character and a bracket; one
that does not end takes the rest of the text. -/
def strip (text : String) : String := stripFrom "" .text text.toList

end Strip

end Palette

namespace QueryError

/-- A line of a rendered error. The line of the message and that of the hint are known by how they
begin. -/
def paintLine (palette : Palette) (line : String) : String :=
  if Text.beginsWith "query syntax error:" line then palette.paint .error line
  else if Text.beginsWith "hint:" line then palette.paint .dim line
  else line

def renderIn (palette : Palette) (error : QueryError) (query : String) : String :=
  (Text.lines (error.render query)).foldl
    (fun out line => (out ++ paintLine palette line).push '\n') ""

end QueryError
end BoolQuery
