import BoolQuery.FileTree
import BoolQuery.Settings.Layer

/-! Which settings files count in a folder, and the settings that they give together.

The files are those of the folder and of the folders around it, up to a file that says it is the
outermost. If none does, the file in the home folder counts as well, behind all others. -/
namespace BoolQuery.Settings

open FileTree (Path)

section Discovery

def fileName : String := ".qs.toml"

def fileIn (folder : Path) : Path := fileName :: folder

/-- A file says that it is the outermost. A file that cannot be read says nothing. -/
def isOutermost (tree : FileTree) (file : Path) : Bool :=
  match tree.readText file with
  | .error _ => false
  | .ok source =>
    match Layer.read source with
    | .error _ => false
    | .ok layer => layer.root = some true

/-- The files up to the first that says it is the outermost, and whether there is one. -/
def upToOutermost (tree : FileTree) : List Path → List Path × Bool
  | [] => ([], false)
  | file :: rest =>
    if isOutermost tree file then ([file], true)
    else ((file :: (upToOutermost tree rest).1), (upToOutermost tree rest).2)

def filesAround (tree : FileTree) (folder : Path) : List Path :=
  (folder.upwards.map fileIn).filter tree.hasFile

/-- The settings files that count in a folder; those in front lie over those behind. -/
def discover (tree : FileTree) (home folder : Path) : List Path :=
  let (files, closed) := upToOutermost tree (filesAround tree folder)
  let last := fileIn home
  if !closed && tree.hasFile last && !files.contains last then files ++ [last] else files

end Discovery

section Loading

inductive LoadFault
  | unreadable (file : String) (cause : FileTree.Fault)
  | invalid (file : String) (fault : Layer.Fault)
  deriving DecidableEq, Repr

def LoadFault.message : LoadFault → String
  | .unreadable file cause => "failed to read config file " ++ file ++ ": " ++ cause.message
  | .invalid file fault => "failed to parse config file " ++ file ++ ": " ++ fault.message

def readLayer (file source : String) : Except LoadFault Layer :=
  (Layer.read source).mapError (LoadFault.invalid file)

def loadLayer (tree : FileTree) (file : Path) : Except LoadFault Layer := do
  let source ← (tree.readText file).mapError (LoadFault.unreadable file.text)
  readLayer file.text source

/-- The settings that files give together. The first file that cannot be used is told. -/
def load (tree : FileTree) (files : List Path) : Except LoadFault Settings :=
  (files.mapM (loadLayer tree)).map ofLayers

/-- The settings that files give together once they are read, and the paths of all of them. -/
def merge (files : List (Path × Layer)) : Settings × List Path :=
  (ofLayers (files.map Prod.snd), files.map Prod.fst)

def inForce (tree : FileTree) (home folder : Path) : Except LoadFault (Settings × List Path) := do
  let files := discover tree home folder
  return (← load tree files, files)

end Loading
end BoolQuery.Settings
