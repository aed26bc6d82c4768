import BoolQuery.Command.Run
import BoolQuery.Proofs.Settings.Discovery
import BoolQuery.Proofs.Settings.Template

/-! A new settings file to start from. It defines nothing, so wherever it is found, the settings in force
stay what they were. -/
namespace BoolQuery.Settings

open FileTree (Path)

section Silent

/-- A tree has one file more than another, and the file is a settings file that defines nothing. -/
structure AddsSilent (before after : FileTree) (target : Path) : Prop where
  new : before.entryAt target = .absent
  others : ∀ path, path ≠ target → after.entryAt path = before.entryAt path
  silent : loadLayer after target = .ok {}

variable {before after : FileTree} {target file home folder : Path}

theorem inForce_settings (tree : FileTree) (home folder : Path) :
    (inForce tree home folder).map Prod.fst = load tree (discover tree home folder) := by
  rw [inForce_eq]
  cases load tree (discover tree home folder) <;> rfl

theorem AddsSilent.hasFile (adds : AddsSilent before after target) (file : Path) :
    before.hasFile file = (after.hasFile file && file ≠ target) := by
  by_cases same : file = target
  · subst same
    have missing : before.hasFile file = false := by
      rw [Bool.eq_false_iff]
      intro found
      simp [FileTree.hasFile_iff, adds.new] at found
    simp [missing]
  · simp [same, FileTree.hasFile_congr (adds.others file same)]

theorem AddsSilent.missing (adds : AddsSilent before after target) : ¬ before.has target := by
  rw [FileTree.has_iff, not_not]
  exact adds.new

theorem AddsSilent.isOutermost_target (adds : AddsSilent before after target) :
    isOutermost after target = false := isOutermost_of_loadLayer adds.silent

theorem AddsSilent.walk (adds : AddsSilent before after target) (folders : List Path) :
    walk before folders =
      ((Settings.walk after folders).1.filter (· ≠ target), (Settings.walk after folders).2) := by
  induction folders with
  | nil => rfl
  | cons folder rest ih =>
    rw [walk_cons, walk_cons, adds.hasFile, ih]
    by_cases found : after.hasFile (fileIn folder)
    · by_cases new : fileIn folder = target
      · subst new
        simp [found, adds.isOutermost_target]
      -- Any other file ends the walk where it did before.
      · have ends := isOutermost_congr (adds.others _ new)
        by_cases outermost : isOutermost after (fileIn folder)
        · simp [new, found, ← ends, outermost]
        · simp [new, found, ← ends, outermost]
    · simp [found]

/-- Without the new file, the files that count are those that counted before. -/
theorem AddsSilent.discover (adds : AddsSilent before after target) (home folder : Path) :
    discover before home folder = (Settings.discover after home folder).filter (· ≠ target) := by
  rw [discover_eq, discover_eq, adds.walk, adds.hasFile]
  generalize Settings.walk after folder.upwards = walked
  obtain ⟨files, closed⟩ := walked
  by_cases last : fileIn home = target
  -- The new file is the one of the home folder: it is added behind the others, or not at all.
  · subst last
    rw [if_neg (by simp)]
    split <;> simp
  · have still : (files.filter (· ≠ target)).contains (fileIn home) = files.contains (fileIn home) := by
      simp [last]
    have other : (after.hasFile (fileIn home) && decide (fileIn home ≠ target)) =
        after.hasFile (fileIn home) := by
      simp [last]
    simp only [still, other]
    split
    · simp [last]
    · rfl

theorem AddsSilent.load (adds : AddsSilent before after target) {files : List Path}
    (present : ∀ file ∈ files, after.hasFile file) :
    load before (files.filter (· ≠ target)) = Settings.load after files := by
  induction files with
  | nil => rfl
  | cons file rest ih =>
    have others := ih fun other member => present other (List.mem_cons_of_mem file member)
    rw [load_cons, ← others]
    by_cases new : file = target
    · subst new
      rw [adds.silent, List.filter_cons_of_neg (by simp)]
      cases Settings.load before (rest.filter (· ≠ file)) <;> rfl
    · have same := loadLayer_congr (adds.others file new) (present file List.mem_cons_self)
      rw [List.filter_cons_of_pos (by simpa using new), load_cons, same]

/-- The settings in force are the same with a file that defines nothing, or the same file cannot be
used. -/
theorem AddsSilent.settings (adds : AddsSilent before after target) (home folder : Path) :
    (inForce after home folder).map Prod.fst = (inForce before home folder).map Prod.fst := by
  have present : ∀ file ∈ Settings.discover after home folder, after.hasFile file :=
    fun file member => mem_discover member
  have loaded := adds.load present
  rw [inForce_settings, inForce_settings, adds.discover, loaded]

theorem addsSilent_of_write {template : String} (new : before.entryAt target = .absent)
    (silent : Layer.read template = .ok {}) (written : before.writeText target template = .ok after) :
    AddsSilent before after target where
  new := new
  others := fun path other => by rw [FileTree.entryAt_writeText written, if_neg other]
  silent := by
    have content : after.entryAt target = .file template.toUTF8 := by
      rw [FileTree.entryAt_writeText written, if_pos rfl]
    have text := FileTree.readText_eq_ok_iff.mpr ⟨_, content, FileTree.fromUTF8_toUTF8 template⟩
    exact loadLayer_eq_ok_iff.mpr ⟨template, text, silent⟩

end Silent
end BoolQuery.Settings

namespace BoolQuery

open FileTree (Path)

section Writing

variable {around : Surroundings} {forUser : Bool}

/-- The folder that a settings file is to be written to. In the home folder it is always that one. -/
def Surroundings.initFolder (around : Surroundings) (forUser : Bool) : Path :=
  if forUser || around.folder = around.home then around.home else around.folder

theorem read_template (forUser : Bool) : Settings.Layer.read
    (if forUser then Settings.Template.forUser else Settings.Template.forProject) = .ok {} := by
  cases forUser with
  | true => exact Settings.Template.read_forUser
  | false => exact Settings.Template.read_forProject

/-- What comes of writing a settings file that may not replace another one: it is there already, or it
cannot be written, or the tree has a file more that defines nothing. -/
theorem runInit_cases (context : Context) (around : Surroundings) (forUser : Bool) :
    let target := Settings.fileIn (around.initFolder forUser)
    let ends := context.runInit around forUser false
    (ends.1.succeeded = false ∧ ends.2 = around.tree ∧
      (around.tree.has target ∨ ∃ text fault, around.tree.writeText target text = .error fault)) ∨
    (ends.1.succeeded = true ∧ Settings.AddsSilent around.tree ends.2 target ∧
      ∃ text, around.tree.writeText target text = .ok ends.2) := by
  intro target ends
  have silent := read_template (forUser || around.folder = around.home)
  generalize chosen : (if (forUser || decide (around.folder = around.home)) = true then
    Settings.Template.forUser else Settings.Template.forProject) = template at silent
  by_cases there : around.tree.has target
  · have kept : (around.tree.has target && !false) = true := by rw [there]; rfl
    have stays : ends = (_, around.tree) := if_pos kept
    rw [stays]
    exact Or.inl ⟨rfl, rfl, Or.inl there⟩
  · have free : ¬ (around.tree.has target && !false) = true := by
      rwa [Bool.not_false, Bool.and_true]
    have writes : ends = _ := if_neg free
    rw [writes, chosen]
    split
    · next fault written => exact Or.inl ⟨rfl, rfl, Or.inr ⟨template, fault, written⟩⟩
    · next tree written =>
      have new : around.tree.entryAt target = .absent := by
        simpa [FileTree.has_iff] using there
      exact Or.inr ⟨rfl, Settings.addsSilent_of_write new silent written, template, written⟩

theorem runInit_succeeds_iff (context : Context) (around : Surroundings) (forUser : Bool) :
    (context.runInit around forUser false).1.succeeded ↔
      around.tree.entryAt (around.initFolder forUser) = .folder ∧
        ¬ around.tree.has (Settings.fileIn (around.initFolder forUser)) := by
  have writable (text : String) :
      (∃ after, around.tree.writeText (Settings.fileIn (around.initFolder forUser)) text = .ok after) ↔ _ :=
    FileTree.writeText_ok_iff (around.initFolder forUser) Settings.fileName text
  rcases runInit_cases context around forUser with ⟨failed, -, cause⟩ | ⟨succeeded, adds, text, written⟩
  · refine iff_of_false (by simp [failed]) ?_
    rintro ⟨here, missing⟩
    rcases cause with there | ⟨text, fault, refused⟩
    · exact missing there
    · have absent : around.tree.entryAt (Settings.fileIn (around.initFolder forUser)) = .absent := by
        simpa [FileTree.has_iff] using missing
      obtain ⟨after, written⟩ := (writable text).mpr ⟨here, Or.inl absent⟩
      exact absurd (refused.symm.trans written) (by simp)
  · have here := ((writable text).mp ⟨_, written⟩).1
    exact iff_of_true succeeded ⟨here, adds.missing⟩

/-- A settings file to start from is written just where its folder is there and the file is not; a file
that is there is left alone. The new file is then all that differs, and in every folder the settings in
force are what they were, or the same file cannot be used for the same reason. -/
theorem init_is_inert (around : Surroundings) (verbosity : Nat) (noColor forUser : Bool) :
    let folder := if forUser || around.folder = around.home then around.home else around.folder
    let target := Settings.fileIn folder
    let outcome := Invocation.run ⟨verbosity, noColor, .init forUser false⟩ around
    (around.tree.has target → outcome.exit = 1 ∧ outcome.tree = around.tree) ∧
    (outcome.exit = 0 ↔ around.tree.entryAt folder = .folder ∧ ¬ around.tree.has target) ∧
    (outcome.exit = 0 →
      (∃ content, outcome.tree.entryAt target = .file content) ∧
      (∀ path, path ≠ target → outcome.tree.entryAt path = around.tree.entryAt path) ∧
      ∀ place, (Settings.inForce outcome.tree around.home place).map Prod.fst =
        (Settings.inForce around.tree around.home place).map Prod.fst) := by
  intro folder target outcome
  obtain ⟨context, exit, tree⟩ : ∃ context : Context,
      outcome.exit = (if (context.runInit around forUser false).1.succeeded then 0 else 1) ∧
      outcome.tree = (context.runInit around forUser false).2 := ⟨_, rfl, rfl⟩
  have success : outcome.exit = 0 ↔ (context.runInit around forUser false).1.succeeded := by
    rw [exit]
    split <;> simp [*]
  refine ⟨?_, success.trans (runInit_succeeds_iff context around forUser), ?_⟩
  · intro there
    rcases runInit_cases context around forUser with ⟨failed, same, -⟩ | ⟨-, adds, -⟩
    · exact ⟨by rw [exit, failed]; rfl, tree.trans same⟩
    · exact absurd there adds.missing
  · intro zero
    rcases runInit_cases context around forUser with ⟨failed, -⟩ | ⟨-, adds, text, written⟩
    · exact absurd (success.mp zero) (by simp [failed])
    · rw [← tree] at adds written
      have content : outcome.tree.entryAt target = .file text.toUTF8 :=
        (FileTree.entryAt_writeText written target).trans (if_pos rfl)
      exact ⟨⟨_, content⟩, adds.others, fun place => adds.settings around.home place⟩

/-- A project without a settings file; the one in the home folder is broken. -/
def besideBrokenFile : Surroundings where
  tree := .folder [("home", .folder [(Settings.fileName, .file "root = [".toUTF8)]), ("p", .folder [])]
  folder := ["p"]
  home := ["home"]
  highlighter := .uniform

-- The new file of the project is written, and the broken file is told as it was before.
theorem new_file_beside_broken_file :
    let outcome := Invocation.run ⟨0, false, .init false false⟩ besideBrokenFile
    outcome.exit = 0 ∧
    ∀ place, (Settings.inForce outcome.tree ["home"] place).map Prod.fst =
      (Settings.inForce besideBrokenFile.tree ["home"] place).map Prod.fst := by
  obtain ⟨-, success, inert⟩ := init_is_inert besideBrokenFile 0 false false
  have written := success.mpr ⟨rfl, by decide⟩
  exact ⟨written, (inert written).2.2⟩

end Writing
end BoolQuery
