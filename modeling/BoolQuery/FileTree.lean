/-! A tree of files, and what reading and writing at a path does to it. -/
namespace BoolQuery

inductive FileTree
  | file (content : ByteArray)
  | locked
  | folder (entries : List (String × FileTree))

namespace FileTree

section Paths

/-- A path from the root, as the names on the way up: its last name comes first. -/
abbrev Path := List String

namespace Path

def text (path : Path) : String := "/" ++ "/".intercalate path.reverse

/-- The path that a text means; empty names and single dots in it say nothing. -/
def ofText (text : String) : Path :=
  ((text.splitOn "/").filter fun name => name ≠ "" && name ≠ ".").reverse

def upwards : Path → List Path
  | [] => [[]]
  | name :: outer => (name :: outer) :: upwards outer

end Path
end Paths

section Reading

inductive Fault
  | notFound
  | notFolder
  | isFolder
  | denied
  | notText
  deriving DecidableEq, Repr

def Fault.message : Fault → String
  | .notFound => "No such file or directory (os error 2)"
  | .notFolder => "Not a directory (os error 20)"
  | .isFolder => "Is a directory (os error 21)"
  | .denied => "Permission denied (os error 13)"
  | .notText => "stream did not contain valid UTF-8"

def descend (tree : FileTree) : List String → Except Fault FileTree
  | [] => .ok tree
  | name :: rest =>
    match tree with
    | .folder entries =>
      match entries.lookup name with
      | some inner => inner.descend rest
      | none => .error .notFound
    | _ => .error .notFolder

def find (tree : FileTree) (path : Path) : Except Fault FileTree := tree.descend path.reverse

def has (tree : FileTree) (path : Path) : Bool :=
  match tree.find path with
  | .ok _ => true
  | .error _ => false

def hasFile (tree : FileTree) (path : Path) : Bool :=
  match tree.find path with
  | .ok (.file _) | .ok .locked => true
  | _ => false

def readText (tree : FileTree) (path : Path) : Except Fault String := do
  match ← tree.find path with
  | .file content =>
    match String.fromUTF8? content with
    | some text => .ok text
    | none => .error .notText
  | .locked => .error .denied
  | .folder _ => .error .isFolder

end Reading

section Writing

def putEntry (name : String) (tree : FileTree) :
    List (String × FileTree) → List (String × FileTree)
  | [] => [(name, tree)]
  | (name', tree') :: rest =>
    if name' = name then (name, tree) :: rest else (name', tree') :: putEntry name tree rest

def writeBelow (content : ByteArray) (tree : FileTree) : List String → Except Fault FileTree
  | [] =>
    match tree with
    | .folder _ => .error .isFolder
    | .locked => .error .denied
    | .file _ => .ok (.file content)
  | name :: rest =>
    match tree with
    | .folder entries =>
      match entries.lookup name, rest with
      | some inner, _ => do return .folder (putEntry name (← inner.writeBelow content rest) entries)
      | none, [] => .ok (.folder (putEntry name (.file content) entries))
      | none, _ => .error .notFound
    | _ => .error .notFolder

def writeText (tree : FileTree) (path : Path) (text : String) : Except Fault FileTree :=
  tree.writeBelow text.toUTF8 path.reverse

/-- Puts something at the end of a way of names. Folders on the way are made; a file on the way is
replaced by a folder. -/
def placeBelow (placed : FileTree) (tree : FileTree) : List String → FileTree
  | [] =>
    match placed, tree with
    | .folder [], .folder entries => .folder entries
    | _, _ => placed
  | name :: rest =>
    match tree with
    | .folder entries =>
      .folder (putEntry name (placed.placeBelow ((entries.lookup name).getD (.folder [])) rest) entries)
    | _ => .folder [(name, placed.placeBelow (.folder []) rest)]

/-- Puts something at a path with all folders on the way. An empty folder changes nothing where a
folder is already. -/
def place (tree : FileTree) (path : Path) (placed : FileTree) : FileTree :=
  placed.placeBelow tree path.reverse

end Writing

section Listing

mutual

def filesAt (path : Path) : FileTree → List (Path × ByteArray)
  | .file content => [(path, content)]
  | .locked => []
  | .folder entries => filesIn path entries

def filesIn (path : Path) : List (String × FileTree) → List (Path × ByteArray)
  | [] => []
  | (name, tree) :: rest => filesAt (name :: path) tree ++ filesIn path rest

end

def files (tree : FileTree) : List (Path × ByteArray) := filesAt [] tree

end Listing
end FileTree
end BoolQuery
