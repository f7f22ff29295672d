import BoardLink.Proofs.Files.Writing

-- What lies below a root, and how it changes when a file there is written. Names are joined to the
-- root one by one, and none of them leads out again.
namespace BoardLink

open Text

namespace FilePath

variable {root : FilePath} {name : String}

-- A name for a file or a directory, and not for its surroundings.
structure IsName (name : String) : Prop where
  nonempty : name ≠ ""
  plain : '/' ∉ name.toList
  not_here : name ≠ "."
  not_up : name ≠ ".."

theorem IsName.split (h : IsName name) : (FilePath.mk name).split = [name] := by
  rw [FilePath.split, pieces, List.splitOn_eq_singleton h.plain, List.map_singleton,
    String.ofList_toList]

theorem split_of_text {path : FilePath} {front : List Char} (hname : IsName name)
    (h : path.text.toList = front ++ '/' :: name.toList) :
    path.split = (pieces '/' front).map String.ofList ++ [name] := by
  rw [FilePath.split, h, pieces, List.splitOn_append_cons_self,
    List.splitOn_eq_singleton hname.plain, List.map_append, List.map_singleton,
    String.ofList_toList]

-- However the root is written, the name comes last.
theorem exists_split_join (root : FilePath) (h : IsName name) :
    ∃ before, (root.join name).split = before ++ [name] ∧ before.filter (· ≠ "") = root.steps := by
  have hhead : name.toList.head? ≠ some '/' := fun hslash => h.plain (List.mem_of_head? hslash)
  by_cases hempty : root.text = ""
  · refine ⟨[], ?_, ?_⟩
    · rw [join, if_pos (.inr hempty), h.split, List.nil_append]
    · rw [steps, split, hempty]
      rfl
  · by_cases hlast : root.text.toList.getLast? = some '/'
    · obtain ⟨front, hfront⟩ := List.getLast?_eq_some_iff.mp hlast
      refine ⟨(pieces '/' front).map String.ofList, ?_, ?_⟩
      · rw [join, if_neg (by simp [hhead, hempty]), if_pos hlast]
        refine split_of_text h ?_
        rw [String.toList_append, hfront, List.append_assoc]
        rfl
      · have hpieces : pieces '/' (front ++ ['/']) = pieces '/' front ++ [[]] :=
          List.splitOn_append_cons_self front []
        rw [steps, split, hfront, hpieces, List.map_append, List.filter_append]
        simp
    · refine ⟨root.split, ?_, rfl⟩
      rw [join, if_neg (by simp [hhead, hempty]), if_neg hlast]
      refine split_of_text h ?_
      rw [String.toList_append, String.toList_append, List.append_assoc]
      rfl

theorem steps_join (root : FilePath) (h : IsName name) :
    (root.join name).steps = root.steps ++ [name] := by
  obtain ⟨before, hsplit, hsteps⟩ := exists_split_join root h
  rw [steps, hsplit, List.filter_append, hsteps]
  simp [h.nonempty]

theorem namesDirectory_join (root : FilePath) (h : IsName name) :
    (root.join name).namesDirectory = false := by
  obtain ⟨before, hsplit, -⟩ := exists_split_join root h
  rw [namesDirectory, hsplit, List.getLast?_concat]
  simp [h.nonempty]

theorem isAbsolute_join (root : FilePath) (h : IsName name) :
    (root.join name).isAbsolute = root.isAbsolute := by
  have hhead : name.toList.head? ≠ some '/' := fun hslash => h.plain (List.mem_of_head? hslash)
  by_cases hempty : root.text = ""
  · rw [join, if_pos (.inr hempty), isAbsolute, isAbsolute, hempty]
    simp [hhead]
  · obtain ⟨c, rest, hroot⟩ : ∃ c rest, root.text.toList = c :: rest :=
      List.exists_cons_of_ne_nil (by simpa using hempty)
    rw [join, if_neg (by simp [hhead, hempty])]
    split <;> simp [isAbsolute, String.toList_append, hroot]

end FilePath

namespace FileTree

open FilePath

variable {tree other made : FileTree} {path root : FilePath} {place : Location} {name : String}
  {steps more : List String} {target : Target} {content : Bytes}

-- What the steps of a path lead to, whatever else may be wrong with it.
def lead (tree : FileTree) (path : FilePath) : Except FileError Target :=
  tree.walk (if path.isAbsolute then [] else tree.workingDirectory) path.steps

theorem locate_congr (h : tree.lead path = other.lead path) :
    tree.locate path = other.locate path := by
  unfold lead at h
  simp only [locate, start, bind, Except.bind]
  split_ifs <;> simp_all

theorem readText_congr (h : tree.stat path = other.stat path) :
    tree.readText path = other.readText path := by
  simp only [readText, readBytes, h]

theorem exists?_congr (h : tree.stat path = other.stat path) :
    tree.exists? path = other.exists? path := by
  simp only [exists?, h]

theorem readText_of_absent (h : tree.exists? path = false) :
    ∃ cause, tree.readText path = .error cause := by
  unfold exists? at h
  cases hstat : tree.stat path with
  | error cause => exact ⟨cause, by simp only [readText, readBytes, hstat]⟩
  | ok node =>
      rw [hstat] at h
      cases h

theorem lead_of_locate (h : tree.locate path = .ok target) : tree.lead path = .ok target := by
  obtain ⟨start, hstart, hway, -⟩ := locate_eq_ok_iff.mp h
  unfold FileTree.start at hstart
  split_ifs at hstart
  all_goals
    cases hstart
    simpa [lead, *] using hway.walk

-- Going on from a target by more steps, of which there is at least one. Nothing lies below a place
-- that is free.
def onward (tree : FileTree) (more : List String) :
    Except FileError Target → Except FileError Target
  | .ok (.existing place _) => tree.walk place more
  | .ok (.free _) => .error .notFound
  | .error error => .error error

theorem walk_append (hmore : more ≠ []) :
    tree.walk place (steps ++ more) = tree.onward more (tree.walk place steps) := by
  obtain ⟨next, others, rfl⟩ := List.exists_cons_of_ne_nil hmore
  induction steps generalizing place with
  | nil =>
      cases hnode : tree.node? place with
      | none => simp [walk, hnode, onward]
      | some node => simp [walk, hnode, onward]
  | cons step rest ih =>
      have hlast : rest ++ next :: others ≠ [] := List.append_ne_nil_of_right_ne_nil rest hmore
      simp only [List.cons_append, walk, hlast, false_and, if_false]
      split
      · rfl
      · split_ifs with hdot hup hlong hfree
        · exact ih
        · exact ih
        · rfl
        · obtain ⟨rfl, hnode⟩ := hfree
          simp [walk, hnode, onward]
        · exact ih
      · rfl

theorem lead_join (h : IsName name) :
    tree.lead (root.join name) = tree.onward [name] (tree.lead root) := by
  rw [lead, steps_join root h, isAbsolute_join root h, walk_append (List.cons_ne_nil _ _)]
  rfl

theorem fits_of_lead (h : tree.lead path = .ok target) : Fits tree target := (Way.of_walk h).fits

-- A name leads on from directories only, to what is there or to a free place.
theorem exists_of_lead_join (hname : IsName name) (h : tree.lead (root.join name) = .ok target) :
    ∃ place, tree.lead root = .ok (.existing place .directory) ∧
      (target = .free (place ++ [name]) ∨ ∃ node, target = .existing (place ++ [name]) node) := by
  rw [lead_join hname] at h
  cases hroot : tree.lead root with
  | error error =>
      rw [hroot] at h
      cases h
  | ok reached =>
      rw [hroot] at h
      cases reached with
      | free place => cases h
      | existing place node =>
          have hnode : tree.node? place = some node := fits_of_lead hroot
          simp only [onward, walk, hnode, hname.not_here, hname.not_up, if_false] at h
          cases node with
          | file old => cases h
          | socket => cases h
          | directory =>
              refine ⟨place, rfl, ?_⟩
              simp only at h
              split_ifs at h
              · cases h
                exact .inl rfl
              · split at h
                · rename_i found _
                  cases h
                  exact .inr ⟨found, rfl⟩
                · cases h

theorem lead_join_congr (hname : IsName name) (h : tree.lead root = other.lead root)
    (hbelow : ∀ place, tree.lead root = .ok (.existing place .directory) →
      tree.node? (place ++ [name]) = other.node? (place ++ [name])) :
    tree.lead (root.join name) = other.lead (root.join name) := by
  rw [lead_join hname, lead_join hname, ← h]
  cases hroot : tree.lead root with
  | error error => rfl
  | ok reached =>
      cases reached with
      | free place => rfl
      | existing place node =>
          have hnode : tree.node? place = some node := fits_of_lead hroot
          have hother : other.node? place = some node := fits_of_lead (h.symm.trans hroot)
          cases node with
          | directory =>
              simp only [onward, walk, hnode, hother, hbelow place hroot, hname.not_here,
                hname.not_up, if_false]
          | file old => simp only [onward, walk, hnode, hother]
          | socket => simp only [onward, walk, hnode, hother]

-- A root leads to the same in two trees, and below it the same is found under some names.
structure AlikeBelow (root : FilePath) (names : List (List String)) (tree other : FileTree) :
    Prop where
  top : tree.lead root = other.lead root
  below : ∀ place, tree.lead root = .ok (.existing place .directory) →
    ∀ name ∈ names, tree.node? (place ++ name) = other.node? (place ++ name)

namespace AlikeBelow

variable {names : List (List String)} {next : String}

theorem join (h : AlikeBelow root names tree other) (hname : IsName name) (hmem : [name] ∈ names) :
    tree.locate (root.join name) = other.locate (root.join name) :=
  locate_congr (lead_join_congr hname h.top fun place hplace => h.below place hplace _ hmem)

theorem join_join (h : AlikeBelow root names tree other) (hname : IsName name)
    (hnext : IsName next) (hmem : [name] ∈ names) (hboth : [name, next] ∈ names) :
    tree.locate ((root.join name).join next) = other.locate ((root.join name).join next) := by
  have hfirst : tree.lead (root.join name) = other.lead (root.join name) :=
    lead_join_congr hname h.top fun place hplace => h.below place hplace _ hmem
  refine locate_congr (lead_join_congr hnext hfirst fun place hplace => ?_)
  obtain ⟨base, hbase, hfree | ⟨node, hnode⟩⟩ := exists_of_lead_join hname hplace
  · cases hfree
  · cases hnode
    rw [List.append_assoc]
    exact h.below base hbase _ hboth

end AlikeBelow

section Writing

-- Writing puts a file under a name. All other names and the root stay as they are.
theorem exists_of_write_join (hname : IsName name)
    (h : tree.write (root.join name) content = .ok made) :
    ∃ place, tree.lead root = .ok (.existing place .directory) ∧
      made = tree.put (place ++ [name]) (.file content) ∧
      ∀ names, [name] ∉ names → AlikeBelow root names tree made := by
  obtain ⟨spot, target, -, hlocate, hopen, rfl⟩ := exists_put_of_write h
  have hlead := lead_of_locate hlocate
  obtain ⟨place, hroot, htarget⟩ := exists_of_lead_join hname hlead
  obtain rfl : spot = place ++ [name] := by
    rw [← hopen.spot_eq]
    rcases htarget with rfl | ⟨node, rfl⟩ <;> rfl
  have hnot := (Way.of_walk hlead).not_directory hopen
  have hkept : ∀ other, tree.node? other = some .directory →
      (tree.put (place ++ [name]) (.file content)).node? other = some .directory :=
    fun _ => node?_put_directory hnot
  refine ⟨place, hroot, rfl, fun names hnames => ⟨?_, ?_⟩⟩
  · have hway := (Way.of_walk hroot).keep (hkept place (fits_of_lead hroot)) hkept
    exact hroot.trans hway.walk.symm
  · intro same hsame names hmem
    rw [hroot] at hsame
    cases hsame
    have hne : place ++ names ≠ place ++ [name] := by
      intro heq
      exact hnames (List.append_cancel_left heq ▸ hmem)
    rw [node?_put _ _ _ _ (by simp), if_neg hne]

-- Whether a file can be written does not depend on what is written.
theorem write_error_iff {cause : FileError} (hslash : path.namesDirectory = false)
    (h : tree.locate path = other.locate path) (more : Bytes) :
    tree.write path content = .error cause ↔ other.write path more = .error cause := by
  simp only [write, hslash, h, bind, Except.bind, Bool.false_eq_true, if_false]
  cases other.locate path with
  | error error => exact Iff.rfl
  | ok target =>
      cases target with
      | free place => simp
      | existing place node => cases node <;> simp

-- What has been written can be written over.
theorem exists_write_again (h : tree.write path content = .ok made) (more : Bytes) :
    ∃ again, made.write path more = .ok again := by
  obtain ⟨-, -, hslash, -⟩ := exists_put_of_write h
  have hstat := stat_write h
  unfold stat at hstat
  split at hstat
  · rename_i place node hlocate
    cases hstat
    exact ⟨made.put place (.file more), by simp [write, hslash, hlocate, bind, Except.bind]⟩
  · cases hstat
  · cases hstat

end Writing

end FileTree

end BoardLink
