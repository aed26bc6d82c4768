import BoolQuery.Settings
import BoolQuery.Toml.Reader
import BoolQuery.Decimal

/-! Settings files. A file defines any part of the settings, and files are laid one over the other.

A file has sections and a section has keys. A key that is not known and a value of the wrong type are
errors; of several errors the one at the first key is told. Instead of a table a section may be an
array with the values of its keys in order. -/
namespace BoolQuery.Settings

structure ParserPart where
  maxDepth : Option Nat := none
  deriving DecidableEq, Repr

structure OutputPart where
  format : Option String := none
  color : Option Bool := none
  deriving DecidableEq, Repr

structure LogPart where
  level : Option String := none
  deriving DecidableEq, Repr

structure Layer where
  /-- Files further out do not count. -/
  root : Option Bool := none
  parser : Option ParserPart := none
  output : Option OutputPart := none
  log : Option LogPart := none
  deriving DecidableEq, Repr

namespace Layer

section Faults

inductive Fault
  | malformed
  | unknownKey (key : String) (known : List String)
  | wrongType (found expected : String)
  | negative (value : Int)
  /-- An integer that needs more than 128 bits. -/
  | overflow
  deriving DecidableEq, Repr

def ticked (name : String) : String := "\x60" ++ name ++ "\x60"

def choice : List String → String
  | [] => "nothing"
  | [one] => ticked one
  | [one, other] => ticked one ++ " or " ++ ticked other
  | names => "one of " ++ ", ".intercalate (names.map ticked)

def Fault.message : Fault → String
  | .malformed => "malformed TOML"
  | .unknownKey key known => "unknown field " ++ ticked key ++ ", expected " ++ choice known
  | .wrongType found expected => "invalid type: " ++ found ++ ", expected " ++ expected
  | .negative value => "invalid value: " ++ Toml.describeInteger value ++ ", expected usize"
  | .overflow => "integer number overflowed"

end Faults

section Values

def mistyped (expected : String) (value : Toml) : Fault :=
  match value with
  | .integer number =>
    if number < -(Width.half128 : Int) ∨ (Width.full128 : Int) ≤ number then .overflow
    else .wrongType value.describe expected
  | _ => .wrongType value.describe expected

def boolean : Toml → Except Fault Bool
  | .boolean value => .ok value
  | value => .error (mistyped "a boolean" value)

def text : Toml → Except Fault String
  | .string value => .ok value
  | value => .error (mistyped "a string" value)

def natural : Toml → Except Fault Nat
  | .integer number =>
    if 0 ≤ number ∧ number < Width.full64 then .ok number.toNat
    else if -(Width.half64 : Int) ≤ number ∧ number < 0 then .error (.negative number)
    else .error (mistyped "usize" (.integer number))
  | value => .error (mistyped "usize" value)

end Values

section Sections

/-- A key of a section, with the way its value is put into the section. -/
structure Key (α : Type) where
  name : String
  put : Toml → α → Except Fault α

def key {α β : Type} (name : String) (read : Toml → Except Fault β) (keep : β → α → α) : Key α where
  name := name
  put := fun value part => do return keep (← read value) part

def readEntries {α : Type} (keys : List (Key α)) (part : α) : Toml.Entries → Except Fault α
  | [] => .ok part
  | (name, value) :: rest => do
    match keys.find? fun key => key.name = name with
    | none => throw (.unknownKey name (keys.map Key.name))
    | some key => readEntries keys (← key.put value part) rest

/-- Reads the values of a section in the order of its keys. Values behind the last key are not
looked at. -/
def readValues {α : Type} (part : α) : List (Key α) → List Toml → Except Fault α
  | key :: keys, value :: values => do readValues (← key.put value part) keys values
  | _, _ => .ok part

/-- Reads a section; `title` is what messages call it. A moment is a table with a private key. -/
def readSection {α : Type} (title : String) (keys : List (Key α)) (empty : α) : Toml → Except Fault α
  | .table _ entries => readEntries keys empty entries
  | .array values => readValues empty keys values
  | .tables items => readValues empty keys (items.reverse.map (.table .header))
  | .moment _ => .error (.unknownKey "$__toml_private_datetime" (keys.map Key.name))
  | value => .error (mistyped ("struct " ++ title) value)

def parserKeys : List (Key ParserPart) :=
  [key "max_depth" natural fun value part => { part with maxDepth := some value }]

def outputKeys : List (Key OutputPart) :=
  [key "format" text fun value part => { part with format := some value },
    key "color" boolean fun value part => { part with color := some value }]

def logKeys : List (Key LogPart) :=
  [key "level" text fun value part => { part with level := some value }]

def keys : List (Key Layer) :=
  [key "root" boolean fun value layer => { layer with root := some value },
    key "parser" (readSection "RawParserSettings" parserKeys {})
      fun part layer => { layer with parser := some part },
    key "output" (readSection "RawOutputSettings" outputKeys {})
      fun part layer => { layer with output := some part },
    key "log" (readSection "RawLogSettings" logKeys {})
      fun part layer => { layer with log := some part }]

end Sections

/-- Reads a settings file. A text that is not TOML is told before all other faults. -/
def read (source : String) : Except Fault Layer :=
  match Toml.read? source with
  | none => .error .malformed
  | some entries => readEntries keys {} entries

section Laying

def maxDepth? (layer : Layer) : Option Nat := layer.parser.bind (·.maxDepth)

def format? (layer : Layer) : Option String := layer.output.bind (·.format)

def color? (layer : Layer) : Option Bool := layer.output.bind (·.color)

def level? (layer : Layer) : Option String := layer.log.bind (·.level)

def laidOver (layer : Layer) (settings : Settings) : Settings where
  maxDepth := layer.maxDepth?.getD settings.maxDepth
  format := layer.format?.getD settings.format
  color := layer.color?.getD settings.color
  level := layer.level?.getD settings.level

end Laying
end Layer

/-- The settings that files define together; the first file lies on top. -/
def ofLayers (layers : List Layer) : Settings := layers.foldr Layer.laidOver {}

def firstDefined {α : Type} (defined? : Layer → Option α) (fallback : α) (layers : List Layer) : α :=
  (layers.findSome? defined?).getD fallback

/-- Each setting comes from the first file that defines it, whatever else that file defines. -/
theorem ofLayers_eq_firstDefined (layers : List Layer) :
    ofLayers layers = {
      maxDepth := firstDefined Layer.maxDepth? defaultLimit layers
      format := firstDefined Layer.format? Format.tree.name layers
      color := firstDefined Layer.color? true layers
      level := firstDefined Layer.level? Log.Level.warn.name layers } := by
  induction layers with
  | nil => rfl
  | cons layer rest ih =>
    have unfolded : ofLayers (layer :: rest) = layer.laidOver (ofLayers rest) := rfl
    rw [unfolded, ih]
    simp only [Layer.laidOver, firstDefined, List.findSome?_cons]
    cases layer.maxDepth? <;> cases layer.format? <;> cases layer.color? <;> cases layer.level? <;>
      rfl

end BoolQuery.Settings
