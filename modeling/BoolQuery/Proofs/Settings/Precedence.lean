import BoolQuery.Proofs.Settings.Discovery
import Mathlib.Data.List.Infix
import Mathlib.Data.List.Nodup

/-! Which settings files count in a folder, in which order, and what becomes of files that cannot be
used: the search passes over them, and loading fails at the first of them. -/
namespace BoolQuery.Settings

open FileTree (Path)

section Loading

variable {tree : FileTree} {home folder file : Path} {files : List Path}

/-- A file can be read, and it is a settings file that defines what `layer` has. -/
def Defines (tree : FileTree) (file : Path) (layer : Layer) : Prop :=
  ∃ content source, tree.entryAt file = .file content ∧ String.fromUTF8? content = some source ∧
    Layer.read source = .ok layer

/-- Why a file cannot be used: it cannot be read as a text, or the text is no settings file. -/
inductive Fails (tree : FileTree) (file : Path) : LoadFault → Prop
  | unreadable {cause : FileTree.Fault} (unread : tree.readText file = .error cause) :
    Fails tree file (.unreadable file.text cause)
  | invalid {source : String} {fault : Layer.Fault} (text : tree.readText file = .ok source)
    (refused : Layer.read source = .error fault) : Fails tree file (.invalid file.text fault)

theorem loadLayer_defines {layer : Layer} :
    loadLayer tree file = .ok layer ↔ Defines tree file layer := by
  rw [loadLayer_eq_ok_iff]
  constructor
  · rintro ⟨source, text, read⟩
    obtain ⟨content, found, spelled⟩ := FileTree.readText_eq_ok_iff.mp text
    exact ⟨content, source, found, spelled, read⟩
  · rintro ⟨content, source, found, spelled, read⟩
    exact ⟨source, FileTree.readText_eq_ok_iff.mpr ⟨content, found, spelled⟩, read⟩

theorem loadLayer_fails {fault : LoadFault} :
    loadLayer tree file = .error fault ↔ Fails tree file fault := by
  unfold loadLayer readLayer
  constructor
  · intro failed
    cases text : tree.readText file with
    | error cause =>
      rw [text] at failed
      cases failed
      exact .unreadable text
    | ok source =>
      rw [text] at failed
      obtain ⟨cause, refused, rfl⟩ := reported_error_iff.mp failed
      exact .invalid text refused
  · rintro (unread | ⟨text, refused⟩)
    · rw [unread]
      rfl
    · rw [text]
      exact reported_error_iff.mpr ⟨_, refused, rfl⟩

theorem saysOutermost_iff :
    SaysOutermost tree file ↔ ∃ layer, Defines tree file layer ∧ layer.root = some true := by
  constructor
  · rintro ⟨content, source, layer, found, spelled, read, root⟩
    exact ⟨layer, ⟨content, source, found, spelled, read⟩, root⟩
  · rintro ⟨layer, ⟨content, source, found, spelled, read⟩, root⟩
    exact ⟨content, source, layer, found, spelled, read, root⟩

theorem Fails.not_outermost {fault : LoadFault} (fails : Fails tree file fault) :
    ¬ SaysOutermost tree file := by
  intro outermost
  obtain ⟨layer, defines, -⟩ := saysOutermost_iff.mp outermost
  have loaded := loadLayer_defines.mpr defines
  rw [loadLayer_fails.mpr fails] at loaded
  cases loaded

theorem load_succeeds_iff :
    (∃ settings, load tree files = .ok settings) ↔ ∀ file ∈ files, ∃ layer, Defines tree file layer := by
  simp only [← loadLayer_defines, ← mapM_ok_iff, load]
  cases files.mapM (loadLayer tree) <;> simp [Except.map]

/-- Loading tells the fault of the first file that fails. -/
theorem load_fails_iff {fault : LoadFault} : load tree files = .error fault ↔
    ∃ front file behind, files = front ++ file :: behind ∧
      (∀ earlier ∈ front, ∃ layer, Defines tree earlier layer) ∧ Fails tree file fault := by
  simp only [← loadLayer_defines, ← loadLayer_fails, ← mapM_error_iff, load]
  cases files.mapM (loadLayer tree) <;> simp [Except.map]

end Loading

section Search

variable {tree : FileTree} {home folder file : Path} {files around : List Path}

/-- What counts of the settings files in a folder and around it, listed from the innermost: those up to
and including the first that says it is the outermost, and where none does, all of them, with the file of
the home folder behind them if it is not among them. -/
inductive Counts (tree : FileTree) (home : Path) (around : List Path) : List Path → Prop
  | closed {front behind : List Path} {file : Path} (split : around = front ++ file :: behind)
    (inside : ∀ earlier ∈ front, ¬ SaysOutermost tree earlier) (outermost : SaysOutermost tree file) :
    Counts tree home around (front ++ [file])
  | withHome (unclosed : ∀ file ∈ around, ¬ SaysOutermost tree file) (present : tree.hasFile (fileIn home))
    (apart : fileIn home ∉ around) : Counts tree home around (around ++ [fileIn home])
  | alone (unclosed : ∀ file ∈ around, ¬ SaysOutermost tree file)
    (settled : tree.hasFile (fileIn home) = false ∨ fileIn home ∈ around) : Counts tree home around around

theorem upwards_eq_tails (folder : Path) : folder.upwards = folder.tails := by
  induction folder with
  | nil => rfl
  | cons name outer ih => rw [Path.upwards, ih, List.tails_cons]

theorem nodup_tails (folder : Path) : folder.tails.Nodup := by
  induction folder with
  | nil => simp
  | cons name outer ih =>
    rw [List.tails_cons, List.nodup_cons]
    refine ⟨fun further => ?_, ih⟩
    have shorter := ((List.mem_tails _ _).mp further).length_le
    rw [List.length_cons] at shorter
    omega

theorem fileIn_injective : Function.Injective fileIn := fun _ _ same => (List.cons.inj same).2

/-- A list of files is cut behind the first that says it is the outermost. -/
theorem upToOutermost_cases (files : List Path) :
    (∃ front file behind, files = front ++ file :: behind ∧
      (∀ earlier ∈ front, ¬ SaysOutermost tree earlier) ∧ SaysOutermost tree file ∧
      upToOutermost tree files = (front ++ [file], true)) ∨
    (∀ file ∈ files, ¬ SaysOutermost tree file) ∧ upToOutermost tree files = (files, false) := by
  induction files with
  | nil => exact Or.inr ⟨by simp, rfl⟩
  | cons file rest ih =>
    by_cases ends : isOutermost tree file
    · exact Or.inl ⟨[], file, rest, rfl, by simp, isOutermost_iff.mp ends, by simp [upToOutermost, ends]⟩
    · have inside : ¬ SaysOutermost tree file := by rwa [← isOutermost_iff]
      rcases ih with ⟨front, last, behind, rfl, others, outermost, cut⟩ | ⟨others, whole⟩
      · exact Or.inl ⟨file :: front, last, behind, rfl, List.forall_mem_cons.mpr ⟨inside, others⟩,
          outermost, by simp [upToOutermost, ends, cut]⟩
      · exact Or.inr ⟨List.forall_mem_cons.mpr ⟨inside, others⟩, by simp [upToOutermost, ends, whole]⟩

theorem filesAround_eq (tree : FileTree) (folder : Path) :
    filesAround tree folder = (folder.tails.map fileIn).filter tree.hasFile := by
  rw [filesAround, upwards_eq_tails]

theorem discover_counts (tree : FileTree) (home folder : Path) :
    Counts tree home ((folder.tails.map fileIn).filter tree.hasFile) (discover tree home folder) := by
  rw [← filesAround_eq]
  unfold discover
  rcases upToOutermost_cases (filesAround tree folder) with
    ⟨front, file, behind, split, inside, outermost, cut⟩ | ⟨unclosed, whole⟩
  · rw [cut]
    exact .closed split inside outermost
  · rw [whole]
    by_cases present : tree.hasFile (fileIn home)
    · by_cases listed : fileIn home ∈ filesAround tree folder
      · simpa [present, listed] using Counts.alone unclosed (Or.inr listed)
      · simpa [present, listed] using Counts.withHome unclosed present listed
    · simpa [present] using Counts.alone unclosed (Or.inl (Bool.eq_false_iff.mpr present))

theorem Counts.nodup (counts : Counts tree home around files) (once : around.Nodup) : files.Nodup := by
  cases counts with
  | closed split inside outermost =>
    rw [split] at once
    exact once.sublist (by simp)
  | withHome unclosed present apart =>
    rw [List.nodup_append]
    refine ⟨once, by simp, ?_⟩
    intro file member last isLast same
    obtain rfl := List.mem_singleton.mp isLast
    exact apart (same ▸ member)
  | alone unclosed settled => exact once

/-- Only the last of the files that count may say that it is the outermost. -/
theorem Counts.outermost_last (counts : Counts tree home around files) :
    ∀ file ∈ files.dropLast, ¬ SaysOutermost tree file := by
  cases counts with
  | closed split inside outermost => simpa using inside
  | withHome unclosed present apart => simpa using unclosed
  | alone unclosed settled => exact fun file member => unclosed file (List.mem_of_mem_dropLast member)

end Search

section Precedence

/-- The settings files that count in a folder are those in it and around it, from the innermost to the
first that says it is the outermost, or else with that of the home folder behind them; no file counts
twice. They are loaded if each of them can be used, and otherwise the first that cannot be is told. Only
the last of them says that it is the outermost; a file that cannot be used never does. -/
theorem search_then_load (tree : FileTree) (home folder : Path) :
    Counts tree home ((folder.tails.map fileIn).filter tree.hasFile) (discover tree home folder) ∧
    (discover tree home folder).Nodup ∧
    ((∃ settings, inForce tree home folder = .ok (settings, discover tree home folder)) ↔
      ∀ file ∈ discover tree home folder, ∃ layer, Defines tree file layer) ∧
    (∀ file ∈ (discover tree home folder).dropLast, ¬ SaysOutermost tree file) ∧
    (∀ fault, inForce tree home folder = .error fault ↔
      ∃ front file behind, discover tree home folder = front ++ file :: behind ∧
        (∀ earlier ∈ front, ∃ layer, Defines tree earlier layer) ∧ Fails tree file fault) ∧
    ∀ file fault, Fails tree file fault → ¬ SaysOutermost tree file := by
  have counts := discover_counts tree home folder
  have once : ((folder.tails.map fileIn).filter tree.hasFile).Nodup :=
    ((nodup_tails folder).map fileIn_injective).filter _
  refine ⟨counts, counts.nodup once, ?_, counts.outermost_last, ?_, fun _ _ fails => fails.not_outermost⟩
  · rw [← load_succeeds_iff, inForce_eq]
    cases load tree (discover tree home folder) <;> simp [Except.map]
  · intro fault
    rw [← load_fails_iff, inForce_eq]
    cases load tree (discover tree home folder) <;> simp [Except.map]

/-- A project with an outermost file and a broken one inside. Further in there is a folder with the name
of a settings file, and further out a file that may not be read. -/
def brokenProject : FileTree :=
  .folder [(fileName, .locked), ("home", .folder [(fileName, .file "".toUTF8)]),
    ("p", .folder [(fileName, .file "root = true\n".toUTF8),
      ("src", .folder [(fileName, .file "root = [".toUTF8), ("deep", .folder [(fileName, .folder [])])])])]

theorem brokenProject_outermost : SaysOutermost brokenProject (fileIn ["p"]) :=
  ⟨_, "root = true\n", { root := some true }, rfl, FileTree.fromUTF8_toUTF8 _, rfl, rfl⟩

theorem brokenProject_fails :
    Fails brokenProject (fileIn ["src", "p"]) (.invalid "/p/src/.qs.toml" .malformed) :=
  .invalid (FileTree.readText_eq_ok_iff.mpr ⟨_, rfl, FileTree.fromUTF8_toUTF8 "root = ["⟩) rfl

/-- The search passes over the broken file to the outermost one and no further; loading tells the broken
one. -/
theorem broken_file_is_passed_and_told :
    discover brokenProject ["home"] ["deep", "src", "p"] = [fileIn ["src", "p"], fileIn ["p"]] ∧
    ¬ SaysOutermost brokenProject (fileIn ["src", "p"]) ∧
    inForce brokenProject ["home"] ["deep", "src", "p"] =
      .error (.invalid "/p/src/.qs.toml" .malformed) := by
  obtain ⟨-, -, -, -, told, passed⟩ := search_then_load brokenProject ["home"] ["deep", "src", "p"]
  have inside := passed _ _ brokenProject_fails
  have ends := isOutermost_iff.mpr brokenProject_outermost
  have goes : isOutermost brokenProject (fileIn ["src", "p"]) = false := by
    rwa [← Bool.not_eq_true, isOutermost_iff]
  have found : discover brokenProject ["home"] ["deep", "src", "p"] =
      [fileIn ["src", "p"], fileIn ["p"]] := by
    have around : filesAround brokenProject ["deep", "src", "p"] =
        [fileIn ["src", "p"], fileIn ["p"], fileIn []] := by decide
    simp [discover, around, upToOutermost, goes, ends]
  refine ⟨found, inside, ?_⟩
  rw [told, found]
  exact ⟨[], _, _, rfl, by simp, brokenProject_fails⟩

end Precedence
end BoolQuery.Settings
