import BoolQuery.Toml.Scalar

/-! TOML documents from text. The reader takes one character at a time. Its state holds the document
that is being filled, the arrays and inline tables that are open, and what the next character stands
in. A text that is no document has no value; which rule it breaks is not told. -/
namespace BoolQuery.Toml.Reader

section Characters

def isBlank (c : Char) : Bool := c = ' ' || c = '\t'

def isText (c : Char) : Bool := c = '\t' || (0x20 ≤ c.toNat && c.toNat ≠ 0x7f)

def isBareKey (c : Char) : Bool := c.isAlphanum || c = '_' || c = '-'

def endsScalar (c : Char) : Bool :=
  isBlank c || c = '\n' || c = '\r' || c = '#' || c = ',' || c = ']' || c = '\x7d'

end Characters

section Strings

/-- What becomes of a line break in a string of several lines. The first one behind the opening
quotes and those behind a backslash are left out. -/
inductive Break
  | kept
  | first
  | skipped
  deriving DecidableEq, Repr

inductive Place
  | opened
  /-- Behind two quotes, which are an empty string unless a third one follows. -/
  | twoQuotes
  | firstLine
  | body
  | escape
  | codePoint (left value : Nat)
  /-- Behind a backslash that ends a line, before the line break. -/
  | lineEnd
  | skipped
  | quotes (count : Nat)
  /-- Behind the carriage return of a line break, which needs a line feed. -/
  | carriage (role : Break)
  deriving DecidableEq, Repr

structure Quote where
  literal : Bool
  lines : Bool := false
  text : String := ""
  place : Place := .opened
  deriving DecidableEq, Repr

def Quote.mark (quote : Quote) : Char := if quote.literal then '\'' else '\x22'

def Quote.at (quote : Quote) (place : Place) : Quote := { quote with place }

def Quote.add (quote : Quote) (c : Char) : Quote :=
  { quote with text := quote.text.push c, place := .body }

/-- The text of a string that is over before the next character. A string of one line is over
behind its quote. One of several lines is over behind three to five quotes, of which those before
the last three belong to it. -/
def Quote.over? (quote : Quote) (next : Option Char) : Option String :=
  match quote.place with
  | .twoQuotes => if next = some quote.mark then none else some quote.text
  | .quotes count =>
    if !quote.lines then some quote.text
    else if count < 3 || (count < 5 && next = some quote.mark) then none
    else some (quote.text.pushn quote.mark (count - 3))
  | _ => none

def Quote.stepBreak (quote : Quote) (role : Break) : Quote :=
  match role with
  | .kept => quote.add '\n'
  | .first => quote.at .body
  | .skipped => quote.at .skipped

def escaped? (c : Char) : Option Char :=
  match c with
  | 'b' => some '\x08'
  | 't' => some '\t'
  | 'n' => some '\n'
  | 'f' => some '\x0c'
  | 'r' => some '\r'
  | 'e' => some '\x1b'
  | '\x22' => some '\x22'
  | '\\' => some '\\'
  | _ => none

def codePointDigits? (c : Char) : Option Nat :=
  match c with
  | 'x' => some 2
  | 'u' => some 4
  | 'U' => some 8
  | _ => none

def character? (point : Nat) : Option Char :=
  if point.isValidChar then some (Char.ofNat point) else none

def Quote.stepBody (quote : Quote) (c : Char) : Option Quote :=
  if c = quote.mark then some (quote.at (.quotes 1))
  else if c = '\\' && !quote.literal then some (quote.at .escape)
  else if c = '\n' && quote.lines then some (quote.stepBreak .kept)
  else if c = '\r' && quote.lines then some (quote.at (.carriage .kept))
  else if isText c then some (quote.add c)
  else none

def Quote.stepEscape (quote : Quote) (c : Char) : Option Quote :=
  match escaped? c, codePointDigits? c with
  | some character, _ => some (quote.add character)
  | none, some digits => some (quote.at (.codePoint digits 0))
  | none, none =>
    -- in a string of several lines a backslash may end its line
    if !quote.lines then none
    else if c = '\n' then some (quote.stepBreak .skipped)
    else if c = '\r' then some (quote.at (.carriage .skipped))
    else if isBlank c then some (quote.at .lineEnd)
    else none

def Quote.step (quote : Quote) (c : Char) : Option Quote :=
  match quote.place with
  | .opened => if c = quote.mark then some (quote.at .twoQuotes) else quote.stepBody c
  | .twoQuotes =>
    if c = quote.mark then some { quote with lines := true, place := .firstLine } else none
  | .firstLine =>
    if c = '\n' then some (quote.stepBreak .first)
    else if c = '\r' then some (quote.at (.carriage .first))
    else quote.stepBody c
  | .body => quote.stepBody c
  | .escape => quote.stepEscape c
  | .codePoint left value => do
    let digit ← digitValue? 16 c
    let value := 16 * value + digit
    if left ≤ 1 then return quote.add (← character? value)
    else return quote.at (.codePoint (left - 1) value)
  | .lineEnd =>
    if c = '\n' then some (quote.stepBreak .skipped)
    else if c = '\r' then some (quote.at (.carriage .skipped))
    else if isBlank c then some quote
    else none
  | .skipped =>
    if isBlank c || c = '\n' then some quote
    else if c = '\r' then some (quote.at (.carriage .skipped))
    else quote.stepBody c
  | .quotes count =>
    if c = quote.mark then some (quote.at (.quotes (count + 1)))
    -- fewer than three quotes are part of the text
    else Quote.stepBody { quote with text := quote.text.pushn quote.mark count } c
  | .carriage role => if c = '\n' then some (quote.stepBreak role) else none

end Strings

section Documents

inductive Role
  | line
  | header
  | item
  | inlined
  deriving DecidableEq, Repr

inductive Resume
  | line
  | value
  | afterValue
  | inlineKey
  deriving DecidableEq, Repr

/-- An array or an inline table that is open. The path is the key of the value that is being
read. -/
inductive Frame
  | array (items : List Toml)
  | inlined (entries : Entries) (path : List String)
  deriving Repr

/-- What the next character stands in. The parts of a key are listed in order. -/
inductive Mode
  | lineStart
  | lineEnd
  | comment (resume : Resume)
  | carriage (resume : Resume)
  | headerOpen
  | itemClose (path : List String)
  | keyPart (role : Role) (path : List String)
  | bareKey (role : Role) (path : List String) (text : String)
  | quotedKey (role : Role) (path : List String) (quote : Quote)
  | keyEnd (role : Role) (path : List String)
  | value
  | string (quote : Quote)
  | scalar (text : String)
  | afterValue
  | inlineKey
  deriving Repr

structure State where
  document : Document := {}
  frames : List Frame := []
  /-- The key of the line whose value is being read. -/
  target : List String := []
  mode : Mode := .lineStart
  deriving Repr

def maxNesting : Nat := 80

def State.at (state : State) (mode : Mode) : State := { state with mode }

def Resume.mode : Resume → Mode
  | .line => .lineStart
  | .value => .value
  | .afterValue => .afterValue
  | .inlineKey => .inlineKey

def State.place (state : State) (value : Toml) : Option State :=
  match state.frames with
  | [] => do
    let document ← state.document.assign state.target value
    return { state with document, mode := .lineEnd }
  | .array items :: outer => some { state with frames := .array (value :: items) :: outer, mode := .afterValue }
  | .inlined entries path :: outer => do
    let key ← path.getLast?
    let entries ← entries.assign key value path.dropLast
    return { state with frames := .inlined entries [] :: outer, mode := .afterValue }

/-- Completes a string or a value without quotes that is over before the next character. -/
def State.settle (state : State) (next : Option Char) : Option State :=
  match state.mode with
  | .string quote =>
    match quote.over? next with
    | some text => state.place (.string text)
    | none => some state
  | .scalar text =>
    match next with
    | none => (scalar? text.toList).bind state.place
    | some c => if endsScalar c then (scalar? text.toList).bind state.place else some state
  | .quotedKey role path quote =>
    match quote.over? next with
    | some text => some (state.at (.keyEnd role (path ++ [text])))
    | none => some state
  | _ => some state

/-- Reads blanks, comments and line breaks, or else what is allowed besides them. -/
def State.stepSpace (state : State) (resume : Resume) (c : Char) (otherwise : Option State) :
    Option State :=
  if isBlank c then some state
  else if c = '\n' then some (state.at resume.mode)
  else if c = '\r' then some (state.at (.carriage resume))
  else if c = '#' then some (state.at (.comment resume))
  else otherwise

def State.stepKeyPart (state : State) (role : Role) (path : List String) (c : Char) : Option State :=
  if isBlank c then some (state.at (.keyPart role path))
  else if isBareKey c then some (state.at (.bareKey role path ("".push c)))
  else if c = '\x22' then some (state.at (.quotedKey role path ⟨false, false, "", .opened⟩))
  else if c = '\'' then some (state.at (.quotedKey role path ⟨true, false, "", .opened⟩))
  else none

def State.takeKey (state : State) (role : Role) (path : List String) : Option State :=
  match role, state.frames with
  | .line, _ => some { state with target := path, mode := .value }
  | .inlined, .inlined entries _ :: outer =>
    some { state with frames := .inlined entries path :: outer, mode := .value }
  | _, _ => none

def State.stepKeyEnd (state : State) (role : Role) (path : List String) (c : Char) : Option State :=
  if isBlank c then some (state.at (.keyEnd role path))
  else if c = '.' then some (state.at (.keyPart role path))
  else if c = '=' then state.takeKey role path
  else if c = ']' && role = .header then do
    return { state with document := ← state.document.openTable path, mode := .lineEnd }
  else if c = ']' && role = .item then some (state.at (.itemClose path))
  else none

def State.enter (state : State) (frame : Frame) (mode : Mode) : Option State :=
  if state.frames.length < maxNesting then
    some { state with frames := frame :: state.frames, mode }
  else none

def State.close (state : State) (c : Char) : Option State :=
  match state.frames with
  | .array items :: outer =>
    if c = ']' then State.place { state with frames := outer } (.array items.reverse) else none
  | .inlined entries _ :: outer =>
    if c = '\x7d' then State.place { state with frames := outer } (.table .inlined entries) else none
  | [] => none

def State.stepValue (state : State) (c : Char) : Option State :=
  if c = '\x22' then some (state.at (.string ⟨false, false, "", .opened⟩))
  else if c = '\'' then some (state.at (.string ⟨true, false, "", .opened⟩))
  else if c = '[' then state.enter (.array []) .value
  else if c = '\x7b' then state.enter (.inlined [] []) .inlineKey
  else if endsScalar c then none
  else some (state.at (.scalar ("".push c)))

def State.stepSeparator (state : State) (c : Char) : Option State :=
  match state.frames with
  | .array _ :: _ => if c = ',' then some (state.at .value) else state.close c
  | .inlined _ _ :: _ => if c = ',' then some (state.at .inlineKey) else state.close c
  | [] => none

def State.stepString (state : State) (c : Char) : Option State :=
  match state.mode with
  | .string quote => (quote.step c).map fun quote => state.at (.string quote)
  | .quotedKey role path quote => do
    let quote ← quote.step c
    -- a key stays on its line
    if quote.lines then none else return state.at (.quotedKey role path quote)
  | _ => none

def State.step (state : State) (c : Char) : Option State :=
  match state.mode with
  | .lineStart =>
    state.stepSpace .line c
      (if c = '[' then some (state.at .headerOpen) else state.stepKeyPart .line [] c)
  | .lineEnd => state.stepSpace .line c none
  | .comment resume =>
    if c = '\n' then some (state.at resume.mode)
    else if c = '\r' then some (state.at (.carriage resume))
    else if isText c then some state
    else none
  | .carriage resume => if c = '\n' then some (state.at resume.mode) else none
  | .headerOpen =>
    if c = '[' then some (state.at (.keyPart .item [])) else state.stepKeyPart .header [] c
  | .itemClose path =>
    if c = ']' then do
      return { state with document := ← state.document.openItem path, mode := .lineEnd }
    else none
  | .keyPart role path => state.stepKeyPart role path c
  | .bareKey role path text =>
    if isBareKey c then some (state.at (.bareKey role path (text.push c)))
    else state.stepKeyEnd role (path ++ [text]) c
  | .keyEnd role path => state.stepKeyEnd role path c
  | .value =>
    match state.frames with
    | .array _ :: _ =>
      state.stepSpace .value c (if c = ']' then state.close c else state.stepValue c)
    -- outside of an array the value starts on the line of its key
    | _ => if isBlank c then some state else state.stepValue c
  | .scalar text => some (state.at (.scalar (text.push c)))
  | .afterValue => state.stepSpace .afterValue c (state.stepSeparator c)
  | .inlineKey =>
    state.stepSpace .inlineKey c
      (if c = '\x7d' then state.close c else state.stepKeyPart .inlined [] c)
  | .string _ | .quotedKey _ _ _ => state.stepString c

def State.run (state : State) : List Char → Option State
  | [] => state.settle none
  | c :: rest => do
    let settled ← state.settle (some c)
    let next ← settled.step c
    next.run rest

/-- The document at the end of the text, where no value, key or header is open. -/
def State.finish? (state : State) : Option Document :=
  match state.mode with
  | .lineStart | .lineEnd | .comment .line => some state.document
  | _ => none

end Documents

end BoolQuery.Toml.Reader

namespace BoolQuery.Toml

def dropMark (text : List Char) : List Char :=
  match text with
  | '\ufeff' :: rest => rest
  | _ => text

def read? (text : String) : Option Entries := do
  let state ← Reader.State.run {} (dropMark text.toList)
  let document ← state.finish?
  return document.entries

end BoolQuery.Toml
