import BoolQuery.Command.Run

/-! The program. A run sees the settings files that could count, and after it they are as it left
them. -/
namespace BoolQuery.Program

open FileTree (Path)

def look (path : Path) : IO (Option FileTree) := do
  try
    return some (.file (← IO.FS.readBinFile path.text))
  catch
    | .inappropriateType .. => return some (.folder [])
    | .permissionDenied .. => return some .locked
    | _ => return none

def takeIn (tree : FileTree) (path : Path) : IO FileTree := do
  match ← look path with
  | some found => return tree.place path found
  | none => return tree

def candidates (folder home : Path) : List Path :=
  (folder.upwards ++ [home]).map Settings.fileIn

def contentAt (tree : FileTree) (path : Path) : Option ByteArray :=
  match tree.find path with
  | .ok (.file content) => some content
  | _ => none

def bringOut (before after : FileTree) (path : Path) : IO Unit := do
  match contentAt before path, contentAt after path with
  | some old, some new => unless old == new do IO.FS.writeBinFile path.text new
  | none, some new => IO.FS.writeBinFile path.text new
  | _, none => return

def print : Printed → IO Unit
  | .result text => IO.print text
  | .remark text => IO.eprint text

def call (highlighter : Highlighter) (arguments : List String) : IO UInt32 := do
  let folder := Path.ofText (← IO.currentDir).toString
  let home := Path.ofText ((← IO.getEnv "HOME").getD "")
  let files := candidates folder home
  let tree ← ([folder, home] ++ files).foldlM takeIn (.folder [])
  let around : Surroundings :=
    { tree, folder, home, highlighter, logFilter := ← IO.getEnv "QS_LOG" }
  let outcome := around.run arguments
  files.forM (bringOut tree outcome.tree)
  outcome.printed.forM print
  return outcome.exit.toUInt32

end BoolQuery.Program

def main (arguments : List String) : IO UInt32 := do
  try
    -- the grammars and themes of the languages are not part of this library
    BoolQuery.Program.call .uniform arguments
  catch error =>
    IO.eprintln s!"error: {error}"
    return 1
