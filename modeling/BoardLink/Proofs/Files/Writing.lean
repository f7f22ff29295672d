import BoardLink.Files.Tree
import BoardLink.Proofs.Lookup
import BoardLink.Proofs.Text.Utf8
import Mathlib.Tactic.SplitIfs

-- What is written to a path is read back from it, and making directories touches no file.
namespace BoardLink.FileTree

open Text

variable {tree made : FileTree} {path : FilePath} {place start : Location} {steps : List String}
  {target : Target} {node : FileNode} {content : Bytes}

-- The root is no entry, so nothing can take its place.
theorem node?_put (tree : FileTree) (place other : Location) (node : FileNode) (h : place ≠ []) :
    (tree.put place node).node? other = if other = place then some node else tree.node? other := by
  have hentries : (tree.put place node).nodes.lookup other =
      if place = other then some node else tree.nodes.lookup other :=
    lookup_replace place other node tree.nodes
  rw [node?, node?, hentries]
  by_cases hroot : other = []
  · subst hroot
    rw [if_pos rfl, if_neg h.symm, if_pos rfl]
  · simp only [if_neg hroot, eq_comm]

section Ways

-- A step to a name below, and not one that stays or goes up.
def Descends (step : String) : Prop :=
  step ≠ "." ∧ step ≠ ".." ∧ (Utf8.encode step.toList).length ≤ 255

-- The steps that lead from a place to a target.
inductive Way (tree : FileTree) : Location → List String → Target → Prop where
  | here {place : Location} {node : FileNode} (found : tree.node? place = some node) :
    Way tree place [] (.existing place node)
  | free {place : Location} {step : String} (directory : tree.node? place = some .directory)
    (descends : Descends step) (absent : tree.node? (place ++ [step]) = none) :
    Way tree place [step] (.free (place ++ [step]))
  | stay {place : Location} {rest : List String} {target : Target}
    (directory : tree.node? place = some .directory) (onward : Way tree place rest target) :
    Way tree place ("." :: rest) target
  | up {place : Location} {rest : List String} {target : Target}
    (directory : tree.node? place = some .directory)
    (onward : Way tree place.dropLast rest target) :
    Way tree place (".." :: rest) target
  | down {place : Location} {step : String} {rest : List String} {target : Target}
    (directory : tree.node? place = some .directory) (descends : Descends step)
    (onward : Way tree (place ++ [step]) rest target) :
    Way tree place (step :: rest) target

theorem Way.of_walk (h : tree.walk start steps = .ok target) : Way tree start steps target := by
  induction steps generalizing start with
  | nil =>
      simp only [walk] at h
      split at h
      · rename_i node hnode
        cases h
        exact .here hnode
      · cases h
  | cons step rest ih =>
      simp only [walk] at h
      split at h
      · cases h
      · rename_i hdirectory
        split_ifs at h with hdot hup hlong habsent
        · subst hdot
          exact .stay hdirectory (ih h)
        · subst hup
          exact .up hdirectory (ih h)
        · obtain ⟨rfl, habsent⟩ := habsent
          cases h
          exact .free hdirectory ⟨hdot, hup, Nat.le_of_not_lt hlong⟩ habsent
        · exact .down hdirectory ⟨hdot, hup, Nat.le_of_not_lt hlong⟩ (ih h)
      · cases h

theorem Way.walk (h : Way tree start steps target) : tree.walk start steps = .ok target := by
  induction h with
  | here found => simp [FileTree.walk, found]
  | free directory descends absent =>
      obtain ⟨hdot, hup, hshort⟩ := descends
      simp [FileTree.walk, directory, hdot, hup, Nat.not_lt.mpr hshort, absent]
  | stay directory onward ih => simp [FileTree.walk, directory, ih]
  | up directory onward ih => simp [FileTree.walk, directory, ih]
  | @down place step rest target directory descends onward ih =>
      obtain ⟨hdot, hup, hshort⟩ := descends
      have hthere : ¬ (rest = [] ∧ tree.node? (place ++ [step]) = none) := by
        rintro ⟨rfl, habsent⟩
        cases onward with
        | here found => simp [habsent] at found
      simp [FileTree.walk, directory, hdot, hup, Nat.not_lt.mpr hshort, hthere, ih]

theorem walk_eq_ok_iff : tree.walk start steps = .ok target ↔ Way tree start steps target :=
  ⟨.of_walk, Way.walk⟩

-- What a target says about its place.
def Fits (tree : FileTree) : Target → Prop
  | .existing place node => tree.node? place = some node
  | .free place => tree.node? place = none

theorem Way.fits (h : Way tree start steps target) : Fits tree target := by
  induction h with
  | here found => exact found
  | free directory descends absent => exact absent
  | stay directory onward ih => exact ih
  | up directory onward ih => exact ih
  | down directory descends onward ih => exact ih

-- The place of a target, taken or free.
def Target.spot : Target → Location
  | .existing place _ => place
  | .free place => place

-- Where the directories of a tree are kept, ways lead to the same places, if anything is there.
theorem Way.keep (h : Way tree start steps target) (hlast : made.node? target.spot = some node)
    (hkept : ∀ spot, tree.node? spot = some .directory → made.node? spot = some .directory) :
    Way made start steps (.existing target.spot node) := by
  induction h with
  | here found => exact .here hlast
  | free directory descends absent => exact .down (hkept _ directory) descends (.here hlast)
  | stay directory onward ih => exact .stay (hkept _ directory) (ih hlast)
  | up directory onward ih => exact .up (hkept _ directory) (ih hlast)
  | down directory descends onward ih => exact .down (hkept _ directory) descends (ih hlast)

end Ways

section Files

-- A place that a file may be put at: nothing is there, or another file.
def Open (place : Location) : Target → Prop
  | .free spot => spot = place
  | .existing spot (.file _) => spot = place
  | .existing .. => False

theorem Way.not_directory (h : Way tree start steps target) (hopen : Open place target) :
    tree.node? place ≠ some .directory := by
  have hfits := h.fits
  cases target with
  | free spot =>
      cases hopen
      simp only [Fits] at hfits
      simp [hfits]
  | existing taken node =>
      cases node with
      | file old =>
          cases hopen
          simp only [Fits] at hfits
          simp [hfits]
      | directory => cases hopen
      | socket => cases hopen

theorem Open.spot_eq (h : Open place target) : target.spot = place := by
  cases target with
  | free spot => exact h
  | existing spot node =>
      cases node with
      | file old => exact h
      | directory => cases h
      | socket => cases h

theorem node?_put_directory {spot : Location} (hnot : tree.node? place ≠ some .directory)
    (h : tree.node? spot = some .directory) :
    (tree.put place node).node? spot = some .directory := by
  have hroot : place ≠ [] := by
    rintro rfl
    exact hnot rfl
  have hne : spot ≠ place := by
    rintro rfl
    exact hnot h
  rw [node?_put _ _ _ _ hroot, if_neg hne, h]

-- The directories on the way are not the place itself, so the way stays open.
theorem Way.put_file (h : Way tree start steps target) (hopen : Open place target) :
    Way (tree.put place (.file content)) start steps (.existing place (.file content)) := by
  have hnot := h.not_directory hopen
  have hroot : place ≠ [] := by
    rintro rfl
    exact hnot rfl
  have hplace := hopen.spot_eq
  have hput : (tree.put place (.file content)).node? target.spot = some (.file content) := by
    rw [hplace, node?_put _ _ _ _ hroot, if_pos rfl]
  have hway := h.keep hput fun spot => node?_put_directory hnot
  rwa [hplace] at hway

-- A path that ends in a slash leads to directories and free places only.
def Allows (path : FilePath) : Target → Prop
  | .existing _ node => path.namesDirectory = true → node = .directory
  | .free _ => True

theorem locate_eq_ok_iff : tree.locate path = .ok target ↔
    ∃ start, tree.start path = .ok start ∧ Way tree start path.steps target ∧
      Allows path target := by
  simp only [locate, bind, Except.bind, ← walk_eq_ok_iff]
  cases tree.start path with
  | error error => simp
  | ok start =>
      simp only [Except.ok.injEq, exists_eq_left']
      cases tree.walk start path.steps with
      | error error => simp
      | ok reached =>
          cases reached with
          | free place =>
              simp only [Except.ok.injEq]
              exact ⟨fun h => ⟨h, h ▸ trivial⟩, And.left⟩
          | existing place node =>
              by_cases hnode : path.namesDirectory = true ∧ node ≠ .directory
              · simp only [if_pos hnode, reduceCtorEq, Except.ok.injEq, false_iff, not_and]
                rintro rfl hallows
                exact hnode.2 (hallows hnode.1)
              · simp only [if_neg hnode, Except.ok.injEq]
                refine ⟨fun h => ⟨h, h ▸ fun hslash => ?_⟩, And.left⟩
                exact Decidable.not_not.mp fun hne => hnode ⟨hslash, hne⟩

theorem exists_put_of_write (h : tree.write path content = .ok made) :
    ∃ place target, path.namesDirectory = false ∧ tree.locate path = .ok target ∧
      Open place target ∧ made = tree.put place (.file content) := by
  simp only [write, bind, Except.bind] at h
  split_ifs at h with hslash
  · split at h
    · cases h
    · split at h
      · cases h
      · split at h <;> cases h
  · have hslash : path.namesDirectory = false := by simpa using hslash
    split at h
    · cases h
    · rename_i target hlocate
      cases target with
      | free place =>
          cases h
          exact ⟨place, _, hslash, hlocate, rfl, rfl⟩
      | existing place node =>
          cases node with
          | file old =>
              cases h
              exact ⟨place, _, hslash, hlocate, rfl, rfl⟩
          | directory => cases h
          | socket => cases h

theorem stat_write (h : tree.write path content = .ok made) :
    made.stat path = .ok (.file content) := by
  obtain ⟨place, target, hslash, hlocate, hopen, rfl⟩ := exists_put_of_write h
  obtain ⟨start, hstart, hway, -⟩ := locate_eq_ok_iff.mp hlocate
  have hallows : Allows path (.existing place (.file content)) := by simp [Allows, hslash]
  have hnow : (tree.put place (.file content)).locate path =
      .ok (.existing place (.file content)) :=
    locate_eq_ok_iff.mpr ⟨start, hstart, hway.put_file hopen, hallows⟩
  simp [stat, hnow]

theorem exists?_writeText {text : String} (h : tree.writeText path text = .ok made) :
    made.exists? path = true := by
  simp [exists?, stat_write h, Except.isOk, Except.toBool]

theorem exists?_of_readText {text : String} (h : tree.readText path = .ok text) :
    tree.exists? path = true := by
  unfold readText readBytes at h
  unfold exists?
  cases hstat : tree.stat path with
  | error error => simp [hstat] at h
  | ok node => rfl

theorem readText_writeText {text : String} (h : tree.writeText path text = .ok made) :
    made.readText path = .ok text := by
  simp [readText, readBytes, stat_write h, Utf8.decode?_encode]

end Files

section Directories

variable {last : FileTree}

-- The second tree has more directories, each at a place that was free, and no other change.
structure OnlyDirectories (tree made : FileTree) : Prop where
  base : made.workingDirectory = tree.workingDirectory
  nodes : ∀ place, made.node? place = tree.node? place ∨
    tree.node? place = none ∧ made.node? place = some .directory

namespace OnlyDirectories

theorem refl (tree : FileTree) : OnlyDirectories tree tree := ⟨rfl, fun _ => .inl rfl⟩

theorem trans (first : OnlyDirectories tree made) (second : OnlyDirectories made last) :
    OnlyDirectories tree last := by
  refine ⟨second.base.trans first.base, fun place => ?_⟩
  rcases first.nodes place with hfirst | ⟨hnone, hfirst⟩
  · rw [← hfirst]
    exact second.nodes place
  · rcases second.nodes place with hsecond | ⟨hsecond, -⟩
    · exact .inr ⟨hnone, hsecond.trans hfirst⟩
    · rw [hfirst] at hsecond
      cases hsecond

theorem node?_some (h : OnlyDirectories tree made) (hnode : tree.node? place = some node) :
    made.node? place = some node := by
  rcases h.nodes place with hsame | ⟨hnone, -⟩
  · exact hsame.trans hnode
  · rw [hnone] at hnode
    cases hnode

theorem way (h : OnlyDirectories tree made)
    (hway : Way tree start steps (.existing place node)) :
    Way made start steps (.existing place node) :=
  hway.keep (h.node?_some hway.fits) fun _ => h.node?_some

end OnlyDirectories

theorem onlyDirectories_makeDirectory (h : tree.makeDirectory path = .ok made) :
    OnlyDirectories tree made := by
  unfold makeDirectory at h
  split at h
  · cases h
  · rename_i place hlocate
    cases h
    obtain ⟨start, -, hway, -⟩ := locate_eq_ok_iff.mp hlocate
    have hfree : tree.node? place = none := hway.fits
    have hroot : place ≠ [] := by
      rintro rfl
      cases hfree
    refine ⟨rfl, fun other => ?_⟩
    by_cases hother : other = place
    · subst hother
      exact .inr ⟨hfree, by simp [node?_put _ _ _ _ hroot]⟩
    · exact .inl (by simp [node?_put _ _ _ _ hroot, hother])
  · cases h

theorem onlyDirectories_makeOrKeepDirectory (h : tree.makeOrKeepDirectory path = .ok made) :
    OnlyDirectories tree made := by
  unfold makeOrKeepDirectory at h
  split at h
  · rename_i hmade
    cases h
    exact onlyDirectories_makeDirectory hmade
  · split_ifs at h
    cases h
    exact .refl tree

-- Induction on the steps up, as the directories are made on the way down.
theorem onlyDirectories_makeDirectoriesWithin (fuel : Nat) (tree : FileTree) (path : FilePath) :
    OnlyDirectories tree (makeDirectoriesWithin fuel tree path).2 := by
  induction fuel generalizing tree path with
  | zero =>
      unfold makeDirectoriesWithin
      split_ifs
      · exact .refl tree
      · split
        · rename_i hmade
          exact onlyDirectories_makeOrKeepDirectory hmade
        · split <;> first | exact .refl tree | contradiction
        · exact .refl tree
  | succ fuel ih =>
      unfold makeDirectoriesWithin
      split_ifs
      · exact .refl tree
      · split
        · rename_i hmade
          exact onlyDirectories_makeOrKeepDirectory hmade
        · split
          · rename_i parent hfuel hparent
            cases hfuel
            have habove := ih tree parent
            split
            · rename_i heq
              rw [heq] at habove
              exact habove
            · rename_i heq
              rw [heq] at habove
              split
              · rename_i hmade
                exact habove.trans (onlyDirectories_makeOrKeepDirectory hmade)
              · exact habove
          · exact .refl tree
        · exact .refl tree

theorem onlyDirectories_makeDirectories (tree : FileTree) (path : FilePath) :
    OnlyDirectories tree (tree.makeDirectories path).2 :=
  onlyDirectories_makeDirectoriesWithin _ tree path

theorem OnlyDirectories.locate (h : OnlyDirectories tree made)
    (hlocate : tree.locate path = .ok (.existing place node)) :
    made.locate path = .ok (.existing place node) := by
  obtain ⟨start, hstart, hway, hallows⟩ := locate_eq_ok_iff.mp hlocate
  have hsame : made.start path = tree.start path := by simp only [FileTree.start, h.base]
  exact locate_eq_ok_iff.mpr ⟨start, hsame.trans hstart, h.way hway, hallows⟩

theorem OnlyDirectories.stat (h : OnlyDirectories tree made) (hstat : tree.stat path = .ok node) :
    made.stat path = .ok node := by
  unfold FileTree.stat at hstat
  split at hstat
  · rename_i hlocate
    cases hstat
    simp [FileTree.stat, h.locate hlocate]
  · cases hstat
  · cases hstat

-- Who could read a file before reads the same now.
theorem OnlyDirectories.readBytes (h : OnlyDirectories tree made)
    (hread : tree.readBytes path = .ok content) : made.readBytes path = .ok content := by
  unfold FileTree.readBytes at hread
  split at hread
  · rename_i hstat
    cases hread
    simp [FileTree.readBytes, h.stat hstat]
  · cases hread
  · cases hread
  · cases hread

end Directories

end BoardLink.FileTree
