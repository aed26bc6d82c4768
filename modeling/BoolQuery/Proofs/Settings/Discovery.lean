import BoolQuery.Proofs.FileTree
import BoolQuery.Settings.Discovery

/-! What the settings in a folder depend on. The search for settings files looks at one path in each
folder on its way out, and a file that says it is the outermost ends it: nothing further out counts
then, nor does the home folder. -/
namespace BoolQuery.Settings

open FileTree (Path)

section Files

variable {tree first second : FileTree} {file : Path} {files : List Path}

/-- At a path stands a settings file that can be read and that says it is the outermost. -/
def SaysOutermost (tree : FileTree) (file : Path) : Prop :=
  ∃ content source layer, tree.entryAt file = .file content ∧
    String.fromUTF8? content = some source ∧ Layer.read source = .ok layer ∧ layer.root = some true

theorem isOutermost_iff : isOutermost tree file ↔ SaysOutermost tree file := by
  have read (source : String) : tree.readText file = .ok source ↔ _ := FileTree.readText_eq_ok_iff
  unfold isOutermost
  constructor
  · intro outermost
    cases text : tree.readText file with
    | error fault => simp [text] at outermost
    | ok source =>
      obtain ⟨content, found, spelled⟩ := (read source).mp text
      cases layered : Layer.read source with
      | error fault => simp [text, layered] at outermost
      | ok layer =>
        refine ⟨content, source, layer, found, spelled, layered, ?_⟩
        simpa [text, layered] using outermost
  · rintro ⟨content, source, layer, found, spelled, layered, root⟩
    simp [(read source).mpr ⟨content, found, spelled⟩, layered, root]

theorem isOutermost_congr (same : first.entryAt file = second.entryAt file) :
    isOutermost first file = isOutermost second file := by
  rw [Bool.eq_iff_iff, isOutermost_iff, isOutermost_iff, SaysOutermost, SaysOutermost, same]

theorem hasFile_of_outermost (outermost : SaysOutermost tree file) : tree.hasFile file := by
  obtain ⟨content, _, _, found, -⟩ := outermost
  exact FileTree.hasFile_iff.mpr (Or.inr ⟨content, found⟩)

theorem loadLayer_eq_ok_iff {layer : Layer} : loadLayer tree file = .ok layer ↔
    ∃ source, tree.readText file = .ok source ∧ Layer.read source = .ok layer := by
  simp only [loadLayer, readLayer, bind_eq_ok_iff, reported_ok_iff]

theorem isOutermost_of_loadLayer {layer : Layer} (loaded : loadLayer tree file = .ok layer) :
    isOutermost tree file = decide (layer.root = some true) := by
  obtain ⟨source, text, read⟩ := loadLayer_eq_ok_iff.mp loaded
  simp [isOutermost, text, read]

theorem loadLayer_congr (same : first.entryAt file = second.entryAt file) (found : first.hasFile file) :
    loadLayer first file = loadLayer second file := by
  rw [loadLayer, loadLayer, FileTree.readText_congr same found]

theorem load_cons (tree : FileTree) (file : Path) (rest : List Path) :
    load tree (file :: rest) = do
      let layer ← loadLayer tree file
      return layer.laidOver (← load tree rest) := by
  unfold load
  rw [List.mapM_cons]
  cases loadLayer tree file with
  | error fault => rfl
  | ok layer => cases rest.mapM (loadLayer tree) <;> rfl

theorem load_congr (alike : ∀ file ∈ files, loadLayer first file = loadLayer second file) :
    load first files = load second files := by
  induction files with
  | nil => rfl
  | cons file rest ih =>
    have others := ih fun other member => alike other (List.mem_cons_of_mem file member)
    rw [load_cons, load_cons, alike file List.mem_cons_self, others]

end Files

section Walk

variable {tree : FileTree} {home folder outer : Path}

/-- The settings files of some folders up to an outermost one, and whether there is one. -/
def walk (tree : FileTree) (folders : List Path) : List Path × Bool :=
  upToOutermost tree ((folders.map fileIn).filter tree.hasFile)

theorem walk_cons (tree : FileTree) (folder : Path) (rest : List Path) :
    walk tree (folder :: rest) =
      if tree.hasFile (fileIn folder) then
        if isOutermost tree (fileIn folder) then ([fileIn folder], true)
        else (fileIn folder :: (walk tree rest).1, (walk tree rest).2)
      else walk tree rest := by
  unfold walk
  by_cases found : tree.hasFile (fileIn folder)
  · simp [found, upToOutermost]
  · simp [found]

theorem mem_walk {folders : List Path} {file : Path} (member : file ∈ (walk tree folders).1) :
    tree.hasFile file := by
  induction folders with
  | nil => cases member
  | cons first rest ih =>
    rw [walk_cons] at member
    by_cases found : tree.hasFile (fileIn first)
    · by_cases ends : isOutermost tree (fileIn first)
      · obtain rfl : file = fileIn first := by simpa [found, ends] using member
        exact found
      · have listed : file = fileIn first ∨ file ∈ (walk tree rest).1 := by
          simpa [found, ends] using member
        rcases listed with rfl | later
        · exact found
        · exact ih later
    · exact ih (by simpa [found] using member)

theorem discover_eq (tree : FileTree) (home folder : Path) : discover tree home folder =
    if !(walk tree folder.upwards).2 && tree.hasFile (fileIn home) &&
      !(walk tree folder.upwards).1.contains (fileIn home)
    then (walk tree folder.upwards).1 ++ [fileIn home] else (walk tree folder.upwards).1 := rfl

theorem mem_discover {file : Path} (member : file ∈ discover tree home folder) : tree.hasFile file := by
  rw [discover_eq] at member
  split at member
  · next last =>
    rcases List.mem_append.mp member with walked | added
    · exact mem_walk walked
    · obtain rfl := List.mem_singleton.mp added
      simp only [Bool.and_eq_true] at last
      exact last.1.2
  · exact mem_walk member

theorem inForce_eq (tree : FileTree) (home folder : Path) : inForce tree home folder =
    (load tree (discover tree home folder)).map fun settings => (settings, discover tree home folder) := by
  unfold inForce
  simp only
  cases load tree (discover tree home folder) <;> rfl

theorem upwards_split (around : outer <:+ folder) :
    ∃ inside beyond, folder.upwards = inside ++ outer :: beyond ∧
      ∀ between ∈ inside, outer <:+ between ∧ between <:+ folder := by
  induction folder with
  | nil =>
    obtain rfl := List.suffix_nil.mp around
    exact ⟨[], [], rfl, by simp⟩
  | cons name rest ih =>
    rcases List.suffix_cons_iff.mp around with rfl | around'
    · exact ⟨[], Path.upwards rest, rfl, by simp⟩
    · obtain ⟨inside, beyond, split, between⟩ := ih around'
      refine ⟨(name :: rest) :: inside, beyond, by rw [Path.upwards, split]; rfl, ?_⟩
      intro passed member
      rcases List.mem_cons.mp member with rfl | later
      · exact ⟨around, List.suffix_refl _⟩
      · obtain ⟨inner, outward⟩ := between passed later
        exact ⟨inner, outward.trans (List.suffix_cons name rest)⟩

end Walk

section Isolation

variable {first second : FileTree} {home folder outer : Path}

/-- The walk ends at an outermost file, and up to there it finds the same in trees that are alike. -/
theorem walk_isolated (outermost : SaysOutermost first (fileIn outer)) (inside beyond : List Path)
    (same : ∀ between ∈ inside ++ [outer],
      first.entryAt (fileIn between) = second.entryAt (fileIn between)) :
    walk second (inside ++ outer :: beyond) = walk first (inside ++ outer :: beyond) ∧
    (walk first (inside ++ outer :: beyond)).2 = true ∧
    ∀ file ∈ (walk first (inside ++ outer :: beyond)).1,
      first.entryAt file = second.entryAt file ∧ first.hasFile file := by
  induction inside with
  | nil =>
    have here := same outer (by simp)
    have found := hasFile_of_outermost outermost
    have ends := isOutermost_iff.mpr outermost
    rw [List.nil_append, walk_cons, walk_cons, ← FileTree.hasFile_congr here, ← isOutermost_congr here]
    simp [found, ends, here]
  | cons between inside ih =>
    have here := same between (by simp)
    obtain ⟨alike, closed, files⟩ := ih fun passed member => same passed (by simp_all)
    rw [List.cons_append, walk_cons, walk_cons, ← FileTree.hasFile_congr here, ← isOutermost_congr here,
      alike]
    by_cases found : first.hasFile (fileIn between)
    · by_cases ends : isOutermost first (fileIn between)
      · simp [found, ends, here]
      · refine ⟨rfl, ?_, ?_⟩
        · simpa [found, ends] using closed
        · intro file member
          have member : file = fileIn between ∨ file ∈ (walk first (inside ++ outer :: beyond)).1 := by
            simpa [found, ends] using member
          rcases member with rfl | later
          · exact ⟨here, found⟩
          · exact files file later
    · simpa [found] using ⟨closed, files⟩

/-- If a folder or one around it holds a file that says it is the outermost, the settings in force are
decided by the entries from the folder up to that one: whatever else two trees hold, the settings and
their files are the same in both, or the same file cannot be used for the same reason. -/
theorem outermost_file_isolates (around : outer <:+ folder)
    (outermost : SaysOutermost first (fileIn outer))
    (same : ∀ between, outer <:+ between → between <:+ folder →
      first.entryAt (fileIn between) = second.entryAt (fileIn between)) :
    inForce first home folder = inForce second home folder := by
  obtain ⟨inside, beyond, split, between⟩ := upwards_split around
  have entries : ∀ passed ∈ inside ++ [outer],
      first.entryAt (fileIn passed) = second.entryAt (fileIn passed) := by
    intro passed member
    rcases List.mem_append.mp member with inner | last
    · exact same passed (between passed inner).1 (between passed inner).2
    · obtain rfl := List.mem_singleton.mp last
      exact same passed (List.suffix_refl _) around
  obtain ⟨alike, closed, files⟩ := walk_isolated outermost inside beyond entries
  have discovered : discover second home folder = discover first home folder := by
    rw [discover_eq, discover_eq, split, alike, closed]
    rfl
  have loaded : load first (discover first home folder) = load second (discover first home folder) := by
    apply load_congr
    intro file member
    have member : file ∈ (walk first (inside ++ outer :: beyond)).1 := by
      simpa [discover_eq, split, closed] using member
    exact loadLayer_congr (files file member).1 (files file member).2
  rw [inForce, inForce, discovered, loaded]

/-- A project with an outermost file, and what is beside it. -/
def projectBeside (others : List (String × FileTree)) : FileTree :=
  .folder (("p", .folder [(fileName, .file "root = true\n".toUTF8), ("src", .folder [])]) :: others)

theorem projectBeside_outermost (others : List (String × FileTree)) :
    SaysOutermost (projectBeside others) (fileIn ["p"]) :=
  ⟨_, "root = true\n", { root := some true }, rfl, FileTree.fromUTF8_toUTF8 _, rfl, rfl⟩

/-- Neither a file around the project that may not be read nor a broken one in the home folder
counts. -/
theorem files_beside_project_ignored :
    SaysOutermost (projectBeside [(fileName, .locked)]) (fileIn ["p"]) ∧
    inForce (projectBeside [(fileName, .locked)]) ["home"] ["src", "p"] =
      inForce (projectBeside [("home", .folder [(fileName, .file "root = [".toUTF8)])])
        ["home"] ["src", "p"] := by
  refine ⟨projectBeside_outermost _,
    outermost_file_isolates ⟨["src"], rfl⟩ (projectBeside_outermost _) ?_⟩
  intro between inner outward
  have listed : between = ["src", "p"] ∨ between = ["p"] := by
    rcases List.suffix_cons_iff.mp outward with rfl | further
    · exact Or.inl rfl
    · exact Or.inr (inner.eq_of_length_le further.length_le).symm
  rcases listed with rfl | rfl
  · rfl
  · rfl

end Isolation

end BoolQuery.Settings
