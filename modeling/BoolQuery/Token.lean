import BoolQuery.Text.Quoted

/-! The tokens of a query and the spelling rules that the reader and the writer of queries share:
which characters end a bare word, and which words are keywords. -/
namespace BoolQuery

inductive Token.Kind
  | word (text : String)
  | phrase (text : String)
  | and
  | or
  | not
  | to
  | openParen
  | closeParen
  | openBracket
  | closeBracket
  | openBrace
  | closeBrace
  | colon
  | star
  | stop
  deriving DecidableEq, Repr

/-- A token and the byte at which it starts. The last token of a query is its `stop`. -/
structure Token where
  kind : Token.Kind
  offset : Nat
  deriving DecidableEq, Repr

namespace Token

def Kind.name : Kind → String
  | .word _ => "WORD"
  | .phrase _ => "QUOTED_STRING"
  | .and => "AND"
  | .or => "OR"
  | .not => "NOT"
  | .to => "TO"
  | .openParen => "LPAREN"
  | .closeParen => "RPAREN"
  | .openBracket => "LBRACKET"
  | .closeBracket => "RBRACKET"
  | .openBrace => "LBRACE"
  | .closeBrace => "RBRACE"
  | .colon => "COLON"
  | .star => "STAR"
  | .stop => "EOF"

def Kind.text? : Kind → Option String
  | .word text | .phrase text => some text
  | _ => none

/-- A kind as messages speak of it. A word is quoted with escapes, a phrase is shown raw. -/
def Kind.describe : Kind → String
  | .word text => "word " ++ Text.quoted text
  | .phrase text => "quoted string \"" ++ text ++ "\""
  | .and => "'AND'"
  | .or => "'OR'"
  | .not => "'NOT'"
  | .to => "'TO'"
  | .openParen => "'('"
  | .closeParen => "')'"
  | .openBracket => "'['"
  | .closeBracket => "']'"
  | .openBrace => "'\x7b'"
  | .closeBrace => "'\x7d'"
  | .colon => "':'"
  | .star => "'*'"
  | .stop => "end of query"

/-- The gap between tokens is made of spaces and tabs; a line break is part of a word. -/
def isBlank (c : Char) : Bool := c = ' ' || c = '\t'

def punctuation? (c : Char) : Option Kind :=
  match c with
  | '(' => some .openParen
  | ')' => some .closeParen
  | '[' => some .openBracket
  | ']' => some .closeBracket
  | '\x7b' => some .openBrace
  | '\x7d' => some .closeBrace
  | ':' => some .colon
  | _ => none

/-- A delimiter ends a bare word. The backslash is none: it goes on with the word. -/
def isDelimiter (c : Char) : Bool :=
  isBlank c || (punctuation? c).isSome || c = '\x22'

def reserved? (word : String) : Option Kind :=
  if word = "*" then some .star
  else if word.toLower = "and" then some .and
  else if word.toLower = "or" then some .or
  else if word.toLower = "not" then some .not
  else if word.toLower = "to" then some .to
  else none

/-- The kind of a bare word. One escape anywhere makes it a plain word. -/
def wordKind (text : String) (escaped : Bool) : Kind :=
  if escaped then .word text else (reserved? text).getD (.word text)

end Token
end BoolQuery
