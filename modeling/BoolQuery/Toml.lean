import BoolQuery.Decimal
import BoolQuery.Text.Quoted

/-! TOML values, and the rules by which the lines of a document fill its tables. -/
namespace BoolQuery

inductive Toml.Float
  | finite (value : Decimal)
  | infinite (negative : Bool)
  | notANumber
  deriving DecidableEq, Repr

/-- How a table came to be, which decides how it may be added to. -/
inductive Toml.Origin
  | inlined
  | header
  /-- Named on the way to the table of a header. -/
  | implied
  /-- Named on the way to a value by a dotted key. -/
  | dotted
  deriving DecidableEq, Repr

/-- A TOML value. The entries of a table are in the order of their keys. -/
inductive Toml
  | string (text : String)
  | integer (value : Int)
  | float (value : Toml.Float)
  | boolean (value : Bool)
  | moment (text : String)
  | array (items : List Toml)
  /-- The tables opened by headers in double brackets, latest first. -/
  | tables (items : List (List (String × Toml)))
  | table (origin : Toml.Origin) (entries : List (String × Toml))
  deriving Repr

namespace Toml

abbrev Entries := List (String × Toml)

section Describing

def Float.text : Float → String
  | .finite value => if value.digits = 0 then value.sign ++ "0.0" else value.positional
  | .infinite negative => if negative then "-inf" else "inf"
  | .notANumber => "NaN"

/-- An integer as messages speak of it; those that need more than 64 bits are told apart. -/
def describeInteger (value : Int) : String :=
  "integer `" ++ toString value ++ "`" ++
    (if value < -(Width.half64 : Int) ∨ (Width.full64 : Int) ≤ value then
      if value < Width.half128 then " as i128" else " as u128"
    else "")

def describe : Toml → String
  | .string text => "string " ++ Text.quoted text
  | .integer value => describeInteger value
  | .float value => "floating point `" ++ value.text ++ "`"
  | .boolean value => "boolean `" ++ toString value ++ "`"
  | .array _ | .tables _ => "sequence"
  | .moment _ | .table _ _ => "map"

end Describing

section Filling

def Entries.put (key : String) (value : Toml) : Entries → Entries
  | [] => [(key, value)]
  | (key', value') :: rest =>
    if key < key' then (key, value) :: (key', value') :: rest
    else if key = key' then (key, value) :: rest
    else (key', value') :: Entries.put key value rest

/-- Changes the table at the end of a path of headers. Tables that are missing on the way are
implied; of the tables in double brackets the latest is meant. -/
def Entries.atHeader (change : Entries → Option Entries) : List String → Entries → Option Entries
  | [], entries => change entries
  | key :: path, entries => do
    match entries.lookup key with
    | none => return entries.put key (.table .implied (← atHeader change path []))
    -- a table between braces is complete
    | some (.table .inlined _) => none
    | some (.table origin inner) => return entries.put key (.table origin (← atHeader change path inner))
    | some (.tables (latest :: earlier)) =>
      return entries.put key (.tables ((← atHeader change path latest) :: earlier))
    | some _ => none

def Entries.openTable (path : List String) (key : String) (entries : Entries) : Option Entries :=
  entries.atHeader (fun inner =>
    match inner.lookup key with
    | none => some (inner.put key (.table .header []))
    | some (.table .implied content) => some (inner.put key (.table .header content))
    | some _ => none) path

def Entries.openItem (path : List String) (key : String) (entries : Entries) : Option Entries :=
  entries.atHeader (fun inner =>
    match inner.lookup key with
    | none => some (inner.put key (.tables [[]]))
    | some (.tables items) => some (inner.put key (.tables ([] :: items)))
    | some _ => none) path

def Entries.setNew (key : String) (value : Toml) (entries : Entries) : Option Entries :=
  match entries.lookup key with
  | none => some (entries.put key value)
  | some _ => none

/-- Sets a value under a dotted key. Tables on the way are made, or come from dotted keys or have no
header so far; the last of them comes from dotted keys. -/
def Entries.assign (key : String) (value : Toml) : List String → Entries → Option Entries
  | [], entries => entries.setNew key value
  | step :: path, entries => do
    match entries.lookup step with
    | none => return entries.put step (.table .dotted (← assign key value path []))
    | some (.table .dotted inner) => return entries.put step (.table .dotted (← assign key value path inner))
    | some (.table .implied inner) =>
      if path = [] then none
      else return entries.put step (.table .implied (← assign key value path inner))
    | some (.tables (latest :: earlier)) =>
      if path = [] then none
      else return entries.put step (.tables ((← assign key value path latest) :: earlier))
    | some _ => none

end Filling

structure Document where
  entries : Entries := []
  header : List String := []
  deriving Repr

namespace Document

def openTable (document : Document) (path : List String) : Option Document := do
  let key ← path.getLast?
  return ⟨← document.entries.openTable path.dropLast key, path⟩

def openItem (document : Document) (path : List String) : Option Document := do
  let key ← path.getLast?
  return ⟨← document.entries.openItem path.dropLast key, path⟩

def assign (document : Document) (path : List String) (value : Toml) : Option Document := do
  let key ← path.getLast?
  let entries ← document.entries.atHeader (Entries.assign key value path.dropLast) document.header
  return { document with entries }

end Document
end Toml
end BoolQuery
