/-! Texts as lists of characters: the bytes they take, sets of characters, lines, and phrases inside. -/
namespace BoolQuery.Text

section Characters

def byteSize : List Char → Nat
  | [] => 0
  | c :: rest => c.utf8Size + byteSize rest

/-- A set of characters as sorted, disjoint ranges of code points with both ends inside. Membership is a
plain search, so that a table can be read and checked entry by entry. -/
abbrev CharRanges := List (Nat × Nat)

def CharRanges.covers (ranges : CharRanges) (c : Char) : Bool :=
  ranges.any fun range => range.1 ≤ c.toNat && c.toNat ≤ range.2

end Characters

section Lines

def dropReturn : List Char → List Char
  | '\r' :: line => line
  | line => line

/-- The lines of a text. A line ends at a line feed, or at a carriage return and a line feed; text
behind the last break is a line when it is not empty. `line` is the line so far, reversed. -/
def linesFrom (line : List Char) : List Char → List (List Char)
  | [] => if line = [] then [] else [line.reverse]
  | c :: rest =>
    if c = '\n' then (dropReturn line).reverse :: linesFrom [] rest else linesFrom (c :: line) rest

def lines (text : String) : List String := (linesFrom [] text.toList).map String.ofList

def beginsWith (phrase text : String) : Bool := phrase.toList.isPrefixOf text.toList

def occursIn (phrase : List Char) : List Char → Bool
  | [] => phrase = []
  | c :: rest => phrase.isPrefixOf (c :: rest) || occursIn phrase rest

def mentions (phrase text : String) : Bool := occursIn phrase.toList text.toList

end Lines

end BoolQuery.Text
