import BoolQuery.Text

/-! The report of a query that cannot be read: what is wrong, where, and what may help. -/
namespace BoolQuery

/-- An error in a query. A lexical error always has a position, counted in bytes. -/
inductive QueryError
  | lexical (reason : String) (position : Nat)
  | grammatical (reason : String) (position : Option Nat)
  deriving DecidableEq, Repr

namespace QueryError

def reason : QueryError → String
  | .lexical reason _ | .grammatical reason _ => reason

def position? : QueryError → Option Nat
  | .lexical _ position => some position
  | .grammatical _ position => position

def atPosition : Option Nat → String
  | some position => " at position " ++ toString position
  | none => ""

def message : QueryError → String
  | .lexical reason position => "lex error: " ++ reason ++ atPosition (some position)
  | .grammatical reason position => "syntax error: " ++ reason ++ atPosition position

/-- Advice, chosen by the wording of the reason; the first rule that fits is taken. -/
def hint? : QueryError → Option String
  | .lexical reason _ =>
    if Text.mentions "unterminated" reason then
      some "Add a closing quote (\") to complete the phrase"
    else if Text.mentions "escape" reason then
      some "A backslash escapes the next character; use \\\\ for a literal backslash"
    else none
  | .grammatical reason _ =>
    if Text.beginsWith "expected 'TO'" reason then
      some "Ranges are written field:[start TO end], use * for an open side"
    else if Text.mentions "close range" reason then
      some "Close an inclusive bound with ] or an exclusive bound with \x7d"
    else if Text.beginsWith "expected ')'" reason then
      some "Add a closing parenthesis ) to match the opening one"
    else if Text.mentions "trailing" reason then
      some "Remove the unmatched closing bracket or parenthesis"
    else if Text.mentions "maximum depth" reason then
      some "Flatten the query or raise the parser max_depth setting"
    else none

/-- Characters of a text that begin before a byte. The first of them begins at `offset`, and
`count` were counted before. -/
def charsBefore (position offset count : Nat) : List Char → Nat
  | [] => count
  | c :: rest =>
    if offset < position then charsBefore position (offset + c.utf8Size) (count + 1) rest
    else count

/-- The line that points at a byte of the query, counted in characters. -/
def caretLine (query : String) (position : Nat) : String :=
  "".pushn ' ' (2 + charsBefore position 0 0 query.toList) ++ "^\n"

def render (error : QueryError) (query : String) : String :=
  "query syntax error: " ++ error.reason ++ "\n  " ++ query ++ "\n" ++
    (match error.position? with
      | some position => caretLine query position
      | none => "") ++
    (match error.hint? with
      | some hint => "hint: " ++ hint ++ "\n"
      | none => "")

end QueryError
end BoolQuery
