import BoardLink.DigitalInputs
import BoardLink.Proofs.Files.Below
import BoardLink.Proofs.Text.Blank
import BoardLink.Proofs.Text.Numerals

-- Inputs are read from the files of their pins. A pin without a file is asked for, which writes the
-- export file they share, and nothing that is read is changed by that.
namespace BoardLink.DigitalInputs

open Text FilePath FileTree

variable {root : FilePath} {pin other : UInt32} {tree made next : FileTree} {host there : Host}
  {text : String}

section Places

theorem toList_pin (pin : UInt32) : ("gpio" ++ toString pin.toNat).toList =
    'g' :: 'p' :: 'i' :: 'o' :: Numeral.decimal pin.toNat := by
  rw [String.toList_append, Numeral.toList_toString]
  rfl

theorem pin_ne {name : String} (h : name.toList.head? ≠ some 'g') :
    "gpio" ++ toString pin.toNat ≠ name := by
  rintro rfl
  exact h (by rw [toList_pin]; rfl)

theorem isName_pin (pin : UInt32) : IsName ("gpio" ++ toString pin.toNat) := by
  have hslash : '/' ∉ Numeral.decimal pin.toNat := by
    intro hmem
    obtain ⟨digit, hdigit, hc⟩ := Numeral.exists_digit hmem
    have hall : ∀ d : Fin 10, d.val.digitChar ≠ '/' := by decide
    exact hall ⟨digit, hdigit⟩ hc.symm
  refine ⟨pin_ne (by decide), ?_, pin_ne (by decide), pin_ne (by decide)⟩
  rw [toList_pin]
  simp [hslash]

theorem isName_value : IsName "value" := ⟨by decide, by decide, by decide, by decide⟩

theorem isName_export : IsName "export" := ⟨by decide, by decide, by decide, by decide⟩

-- Two trees that are the same to a pin: its value file, and whether it can be asked for.
structure AlikeFor (root : FilePath) (pin : UInt32) (tree other : FileTree) : Prop where
  value : tree.stat (valuePath root pin) = other.stat (valuePath root pin)
  refusal : ∀ cause, tree.writeText (exportPath root) (toString pin.toNat) = .error cause ↔
    other.writeText (exportPath root) (toString pin.toNat) = .error cause

theorem stat_of_alikeBelow {names : List (List String)} (h : AlikeBelow root names tree made)
    (hpin : ["gpio" ++ toString pin.toNat] ∈ names)
    (hvalue : ["gpio" ++ toString pin.toNat, "value"] ∈ names) :
    tree.stat (valuePath root pin) = made.stat (valuePath root pin) := by
  unfold stat valuePath
  rw [h.join_join (isName_pin pin) isName_value hpin hvalue]

theorem AlikeFor.refl (tree : FileTree) : AlikeFor root pin tree tree := ⟨rfl, fun _ => Iff.rfl⟩

theorem AlikeFor.of_alikeBelow
    (h : AlikeBelow root [["export"], ["gpio" ++ toString pin.toNat],
      ["gpio" ++ toString pin.toNat, "value"]] tree made) : AlikeFor root pin tree made where
  value := stat_of_alikeBelow h (by simp) (by simp)
  refusal := fun _ => write_error_iff (namesDirectory_join root isName_export)
    (h.join isName_export (by simp)) _

-- Asking for one pin is the same to all pins as not asking.
theorem AlikeFor.of_write (h : tree.writeText (exportPath root) text = .ok made) (pin : UInt32) :
    AlikeFor root pin tree made where
  value := by
    obtain ⟨place, -, -, halike⟩ := exists_of_write_join isName_export h
    refine stat_of_alikeBelow (halike [["gpio" ++ toString pin.toNat],
      ["gpio" ++ toString pin.toNat, "value"]] ?_) (by simp) (by simp)
    have hne : "gpio" ++ toString pin.toNat ≠ "export" := pin_ne (by decide)
    simp only [List.mem_cons, List.cons.injEq, hne.symm, false_and, List.not_mem_nil, or_self,
      not_false_eq_true]
  refusal := by
    -- It was not refused the first time, and what has been written can be written over.
    intro cause
    obtain ⟨again, hagain⟩ := exists_write_again h (Utf8.encode (toString pin.toNat).toList)
    have hnot : tree.writeText (exportPath root) (toString pin.toNat) ≠ .error cause := by
      intro herror
      have hsame : tree.writeText (exportPath root) text = .error cause :=
        (write_error_iff (namesDirectory_join root isName_export) rfl _).mp herror
      cases h.symm.trans hsame
    refine iff_of_false hnot fun herror => ?_
    cases hagain.symm.trans herror

end Places

section Levels

-- The tree that a pin is read from: as it is, or after the pin has been asked for.
inductive Prepared (root : FilePath) (pin : UInt32) (tree : FileTree) : FileTree → Prop where
  | there (present : tree.exists? (valuePath root pin) = true) : Prepared root pin tree tree
  | asked {made : FileTree} (absent : tree.exists? (valuePath root pin) = false)
      (written : tree.writeText (exportPath root) (toString pin.toNat) = .ok made) :
      Prepared root pin tree made

theorem Prepared.alike (h : Prepared root pin tree made) (other : UInt32) :
    AlikeFor root other tree made := by
  cases h with
  | there => exact .refl tree
  | asked _ written => exact .of_write written other

-- The pin cannot be asked for.
def Refused (root : FilePath) (pin : UInt32) (tree : FileTree) (cause : FileError) : Prop :=
  tree.exists? (valuePath root pin) = false ∧
    tree.writeText (exportPath root) (toString pin.toNat) = .error cause

theorem prepared_or_refused (root : FilePath) (pin : UInt32) (tree : FileTree) :
    (∃ made, Prepared root pin tree made) ∨ ∃ cause, Refused root pin tree cause := by
  cases hexists : tree.exists? (valuePath root pin) with
  | true => exact .inl ⟨tree, .there hexists⟩
  | false =>
      cases hwrite : tree.writeText (exportPath root) (toString pin.toNat) with
      | ok made => exact .inl ⟨made, .asked hexists hwrite⟩
      | error cause => exact .inr ⟨cause, hexists, hwrite⟩

theorem Refused.not_prepared {cause : FileError} (h : Refused root pin tree cause) :
    ¬ Prepared root pin tree made := by
  obtain ⟨habsent, herror⟩ := h
  rintro (present | ⟨-, written⟩)
  · cases present.symm.trans habsent
  · cases written.symm.trans herror

-- What comes of reading the value file of a pin.
def outcome (pin : UInt32) : Except FileError String → Except InputError Bool
  | .error cause => .error (.readFailed pin cause)
  | .ok content =>
    let value := String.ofList (trim content.toList)
    match level? value with
    | some high => .ok high
    | none => .error (.badValue pin value)

theorem level?_eq_some_iff {text : List Char} {high : Bool} :
    level? (String.ofList (trim text)) = some high ↔
      Surrounded [if high then '1' else '0'] text := by
  have hplain : ∀ c ∈ [if high then '1' else '0'], isBlank c = false := by
    cases high <;> exact List.forall_mem_singleton.mpr (by decide)
  have hzero : String.ofList (trim text) = "0" ↔ trim text = ['0'] := String.ofList_inj
  have hone : String.ofList (trim text) = "1" ↔ trim text = ['1'] := String.ofList_inj
  rw [← trim_eq_iff hplain, level?]
  simp only [hzero, hone]
  cases high <;> by_cases h : trim text = ['0'] <;> simp [h]

theorem outcome_eq_ok_iff {read : Except FileError String} {high : Bool} :
    outcome pin read = .ok high ↔
      ∃ content, read = .ok content ∧ Surrounded [if high then '1' else '0'] content.toList := by
  unfold outcome
  cases read with
  | error cause => simp
  | ok content =>
      simp only [← level?_eq_some_iff, Except.ok.injEq, exists_eq_left']
      cases level? (String.ofList (trim content.toList)) <;> simp

theorem outcome_eq_badValue_iff {read : Except FileError String} {value : String} :
    outcome pin read = .error (.badValue pin value) ↔
      ∃ content, read = .ok content ∧ value = String.ofList (trim content.toList) ∧
        ∀ high : Bool, ¬ Surrounded [if high then '1' else '0'] content.toList := by
  unfold outcome
  cases read with
  | error cause => simp
  | ok content =>
      simp only [← level?_eq_some_iff, Except.ok.injEq, exists_eq_left']
      cases level? (String.ofList (trim content.toList)) <;> simp [eq_comm]

theorem outcome_eq_readFailed_iff {read : Except FileError String} {cause : FileError} :
    outcome pin read = .error (.readFailed pin cause) ↔ read = .error cause := by
  unfold outcome
  cases read with
  | error other => simp
  | ok content =>
      simp only [reduceCtorEq, iff_false]
      cases level? (String.ofList (trim content.toList)) <;> simp

theorem outcome_ne_exportFailed {read : Except FileError String} {cause : FileError} :
    outcome pin read ≠ .error (.exportFailed pin cause) := by
  unfold outcome
  cases read with
  | error other => simp
  | ok content =>
      dsimp only
      cases level? (String.ofList (trim content.toList)) <;> simp

theorem readPin_eq (root : FilePath) (pin : UInt32) (host : Host) :
    ∃ lines, readPin root pin host = (outcome pin (host.files.readText (valuePath root pin)),
      { host with journal := host.journal ++ lines }) := by
  unfold readPin outcome
  cases host.files.readText (valuePath root pin) with
  | error cause => exact ⟨[], by rw [List.append_nil]⟩
  | ok content =>
      dsimp only
      cases level? (String.ofList (trim content.toList)) <;> exact ⟨_, rfl⟩

-- What is said when a pin is asked for.
def exportLine (pin : UInt32) : Log.Line :=
  ⟨.debug, target, "Exporting gpio" ++ toString pin.toNat⟩

theorem value_of_prepared (h : Prepared root pin host.files made) :
    ∃ lines, value root pin host = (outcome pin (made.readText (valuePath root pin)),
      { host with files := made, journal := host.journal ++ lines }) := by
  cases h with
  | there present =>
      obtain ⟨lines, hread⟩ := readPin_eq root pin host
      exact ⟨lines, by rw [value, if_pos present, hread]⟩
  | asked absent written =>
      obtain ⟨lines, hread⟩ := readPin_eq root pin { host.log (exportLine pin) with files := made }
      have hexport : exportPin root pin host =
          (.ok (), { host.log (exportLine pin) with files := made }) := by
        simp only [exportPin, Host.log, written, exportLine]
      refine ⟨exportLine pin :: lines, ?_⟩
      rw [value, absent, if_neg Bool.false_ne_true, hexport]
      dsimp only
      rw [hread, Host.log, List.append_assoc]
      rfl

theorem value_of_refused {cause : FileError} (h : Refused root pin host.files cause) :
    ∃ lines, value root pin host =
      (.error (.exportFailed pin cause), { host with journal := host.journal ++ lines }) := by
  obtain ⟨habsent, herror⟩ := h
  have hexport : exportPin root pin host =
      (.error (.exportFailed pin cause), host.log (exportLine pin)) := by
    simp only [exportPin, Host.log, herror, exportLine]
  refine ⟨[exportLine pin], ?_⟩
  rw [value, habsent, if_neg Bool.false_ne_true, hexport]
  rfl

end Levels

section Pins

-- Trees that are the same to a pin give the same outcome.
theorem value_congr (h : AlikeFor root pin host.files there.files) :
    (value root pin host).1 = (value root pin there).1 := by
  have hexists := exists?_congr h.value
  rcases prepared_or_refused root pin host.files with ⟨made, hmade⟩ | ⟨cause, hrefused⟩
  · obtain ⟨next, hnext⟩ : ∃ next, Prepared root pin there.files next := by
      refine (prepared_or_refused root pin there.files).resolve_right ?_
      rintro ⟨cause, habsent, herror⟩
      have hrefused : Refused root pin host.files cause :=
        ⟨hexists.trans habsent, (h.refusal cause).mpr herror⟩
      exact hrefused.not_prepared hmade
    have hsame := ((hmade.alike pin).value.symm.trans h.value).trans (hnext.alike pin).value
    obtain ⟨_, hvalue⟩ := value_of_prepared hmade
    obtain ⟨_, hother⟩ := value_of_prepared hnext
    rw [hvalue, hother, readText_congr hsame]
  · obtain ⟨habsent, herror⟩ := hrefused
    have hrefused : Refused root pin there.files cause :=
      ⟨hexists.symm.trans habsent, (h.refusal cause).mp herror⟩
    obtain ⟨_, hvalue⟩ := value_of_refused ⟨habsent, herror⟩
    obtain ⟨_, hother⟩ := value_of_refused hrefused
    rw [hvalue, hother]

-- The files once a pin has been asked for, with success or without.
def afterExport (root : FilePath) (tree : FileTree) (pin : UInt32) : FileTree :=
  match tree.writeText (exportPath root) (toString pin.toNat) with
  | .ok made => made
  | .error _ => tree

-- What becomes of one pin, by the files that are there.
structure Reads (root : FilePath) (pin : UInt32) (host : Host)
    (result : Except InputError Bool) (after : Host) : Prop where
  files : after.files = if host.files.exists? (valuePath root pin) then host.files
    else afterExport root host.files pin
  level : ∀ high, result = .ok high ↔
    ∃ content, after.files.readText (valuePath root pin) = .ok content ∧
      Surrounded [if high then '1' else '0'] content.toList
  unlike : ∀ value, result = .error (.badValue pin value) ↔
    ∃ content, after.files.readText (valuePath root pin) = .ok content ∧
      value = String.ofList (trim content.toList) ∧
      ∀ high : Bool, ¬ Surrounded [if high then '1' else '0'] content.toList
  refused : ∀ cause, result = .error (.exportFailed pin cause) ↔
    Refused root pin host.files cause
  unread : ∀ cause, result = .error (.readFailed pin cause) ↔
    (∀ reason, ¬ Refused root pin host.files reason) ∧
      after.files.readText (valuePath root pin) = .error cause
  missing : host.files.exists? (valuePath root pin) = false →
    after.files.exists? (valuePath root pin) = false ∧
      ((∃ cause, result = .error (.exportFailed pin cause)) ∨
        ∃ cause, result = .error (.readFailed pin cause))
  rest : ∃ lines, after = { host with
    files := after.files
    journal := host.journal ++ lines }

theorem reads_of_prepared (h : Prepared root pin host.files made) :
    Reads root pin host (value root pin host).1 (value root pin host).2 := by
  have hrefused : ∀ cause, ¬ Refused root pin host.files cause := fun _ hno => hno.not_prepared h
  have hexists := exists?_congr (h.alike pin).value
  obtain ⟨lines, hvalue⟩ := value_of_prepared h
  simp only [hvalue]
  constructor
  case files =>
    cases h with
    | there present => simp [present]
    | asked absent written =>
        simp only [absent, afterExport, written, Bool.false_eq_true, if_false]
  case level => exact fun high => outcome_eq_ok_iff
  case unlike => exact fun value => outcome_eq_badValue_iff
  case refused => exact fun cause => iff_of_false outcome_ne_exportFailed (hrefused cause)
  case unread => exact fun cause => outcome_eq_readFailed_iff.trans (and_iff_right hrefused).symm
  case missing =>
    intro habsent
    have hstill : made.exists? (valuePath root pin) = false := hexists.symm.trans habsent
    obtain ⟨cause, hread⟩ := readText_of_absent hstill
    exact ⟨hstill, .inr ⟨cause, outcome_eq_readFailed_iff.mpr hread⟩⟩
  case rest => exact ⟨lines, rfl⟩

-- There is no value file then, so that nothing can be read from it either.
theorem reads_of_refused {cause : FileError} (h : Refused root pin host.files cause) :
    Reads root pin host (value root pin host).1 (value root pin host).2 := by
  obtain ⟨reason, hread⟩ := readText_of_absent h.1
  obtain ⟨lines, hvalue⟩ := value_of_refused h
  simp only [hvalue]
  constructor
  case files => simp only [h.1, afterExport, h.2, Bool.false_eq_true, if_false]
  case level => simp [hread]
  case unlike => simp [hread]
  case refused =>
    intro other
    simp only [Refused, h.1, h.2, true_and, Except.error.injEq, InputError.exportFailed.injEq]
  case unread =>
    intro other
    exact iff_of_false nofun fun hunread => hunread.1 cause h
  case missing => exact fun habsent => ⟨habsent, .inl ⟨cause, rfl⟩⟩
  case rest => exact ⟨lines, rfl⟩

theorem reads_value (root : FilePath) (pin : UInt32) (host : Host) :
    Reads root pin host (value root pin host).1 (value root pin host).2 := by
  rcases prepared_or_refused root pin host.files with ⟨made, hmade⟩ | ⟨cause, hrefused⟩
  · exact reads_of_prepared hmade
  · exact reads_of_refused hrefused

end Pins

section Inputs

variable {number : UInt32} {numbers : List UInt32}

theorem input_of_lt (h : number < 8) (root : FilePath) (host : Host) :
    input root number host = value root (692 + number) host :=
  if_neg (UInt32.not_le.mpr h)

theorem input_of_le (h : 8 ≤ number) (root : FilePath) (host : Host) :
    input root number host = (.error (.outOfRange number), host) :=
  if_pos h

theorem alikeFor_afterExport (root : FilePath) (tree : FileTree) (pin other : UInt32) :
    AlikeFor root other tree (afterExport root tree pin) := by
  unfold afterExport
  split
  · rename_i hwrite
    exact .of_write hwrite other
  · exact .refl tree

-- No input changes what another one finds.
theorem alikeFor_input (h : number < 8) (root : FilePath) (host : Host) (other : UInt32) :
    AlikeFor root other host.files (input root number host).2.files := by
  rw [input_of_lt h, (reads_value root _ host).files]
  split
  · exact .refl host.files
  · exact alikeFor_afterExport root host.files _ other

theorem input_congr (h : number < 8)
    (halike : AlikeFor root (692 + number) host.files there.files) :
    (input root number there).1 = (input root number host).1 := by
  rw [input_of_lt h, input_of_lt h, value_congr halike]

theorem inputs_eq_map (hnumbers : ∀ number ∈ numbers, number < 8) (root : FilePath) (host : Host) :
    (inputs root numbers host).1 =
      numbers.map fun number => (number, (input root number host).1) := by
  induction numbers generalizing host with
  | nil => rfl
  | cons number rest ih =>
      have hnumber := hnumbers number List.mem_cons_self
      have hrest : ∀ number ∈ rest, number < 8 := fun other hother =>
        hnumbers other (List.mem_cons_of_mem _ hother)
      -- The first input left everything that the others look at as it was.
      have hothers : (inputs root rest (input root number host).2).1 =
          rest.map fun number => (number, (input root number host).1) := by
        rw [ih hrest]
        refine List.map_congr_left fun other hother => ?_
        rw [input_congr (hrest other hother) (alikeFor_input hnumber root host _)]
      exact congrArg ((number, (input root number host).1) :: ·) hothers

-- The pins without a value file, which have to be asked for.
def missingPins (root : FilePath) (tree : FileTree) (numbers : List UInt32) : List UInt32 :=
  (numbers.map (692 + ·)).filter fun pin => !tree.exists? (valuePath root pin)

theorem missingPins_congr (h : ∀ pin, AlikeFor root pin tree made) (numbers : List UInt32) :
    missingPins root tree numbers = missingPins root made numbers := by
  unfold missingPins
  refine List.filter_congr fun pin _ => ?_
  rw [exists?_congr (h pin).value]

theorem files_inputs (hnumbers : ∀ number ∈ numbers, number < 8) (root : FilePath) (host : Host) :
    (inputs root numbers host).2.files =
      (missingPins root host.files numbers).foldl (afterExport root) host.files := by
  induction numbers generalizing host with
  | nil => rfl
  | cons number rest ih =>
      have hnumber := hnumbers number List.mem_cons_self
      have hsame := missingPins_congr (alikeFor_input hnumber root host) rest
      have hfirst := (reads_value root (692 + number) host).files
      rw [← input_of_lt hnumber] at hfirst
      have hothers := ih (fun other hother => hnumbers other (List.mem_cons_of_mem _ hother))
        (input root number host).2
      refine hothers.trans ?_
      rw [← hsame, hfirst]
      cases hexists : host.files.exists? (valuePath root (692 + number)) with
      | true => simp [missingPins, hexists]
      | false => simp [missingPins, hexists]

theorem log_input (root : FilePath) (number : UInt32) (host : Host) :
    ∃ lines, (input root number host).2 = { host with
      files := (input root number host).2.files
      journal := host.journal ++ lines } := by
  by_cases h : number < 8
  · rw [input_of_lt h]
    exact (reads_value root _ host).rest
  · rw [input_of_le (UInt32.not_lt.mp h)]
    exact ⟨[], by rw [List.append_nil]⟩

theorem log_inputs (root : FilePath) (numbers : List UInt32) (host : Host) :
    ∃ lines, (inputs root numbers host).2 = { host with
      files := (inputs root numbers host).2.files
      journal := host.journal ++ lines } := by
  induction numbers generalizing host with
  | nil => exact ⟨[], by rw [List.append_nil]; rfl⟩
  | cons number rest ih =>
      obtain ⟨first, hfirst⟩ := log_input root number host
      obtain ⟨others, hothers⟩ := ih (input root number host).2
      refine ⟨first ++ others, ?_⟩
      have hboth : (inputs root (number :: rest) host).2 =
        (inputs root rest (input root number host).2).2 := rfl
      rw [hboth, hothers, hfirst, List.append_assoc]

-- However many pins are asked for, one place is written.
theorem node?_foldl_afterExport (root : FilePath) (pins : List UInt32) (tree : FileTree)
    (place : Location) :
    (pins.foldl (afterExport root) tree).node? place = tree.node? place ∨
      ∃ directory, tree.lead root = .ok (.existing directory .directory) ∧
        place = directory ++ ["export"] := by
  induction pins generalizing tree with
  | nil => exact .inl rfl
  | cons pin rest ih =>
      rw [List.foldl_cons]
      have hrest := ih (afterExport root tree pin)
      cases hwrite : tree.writeText (exportPath root) (toString pin.toNat) with
      | error cause =>
          have hafter : afterExport root tree pin = tree := by simp only [afterExport, hwrite]
          rwa [hafter] at hrest ⊢
      | ok made =>
          have hafter : afterExport root tree pin = made := by simp only [afterExport, hwrite]
          obtain ⟨directory, hlead, hmade, halike⟩ := exists_of_write_join isName_export hwrite
          have hsame := (halike [] List.not_mem_nil).top
          rw [hafter, ← hsame] at hrest
          rw [hafter]
          refine hrest.elim (fun hnode => ?_) .inr
          by_cases hplace : place = directory ++ ["export"]
          · exact .inr ⟨directory, hlead, hplace⟩
          · refine .inl (hnode.trans ?_)
            rw [hmade, node?_put _ _ _ _ (by simp), if_neg hplace]

-- The inputs are read one after the other, and each of them as if it were the only one: what it
-- comes to depends on the files of its own pin and on the export file. That file alone is written,
-- with the numbers of the pins that have no value file, and with that alone they do not get one.
theorem inputs_read_what_is_there (root : FilePath) (host : Host) :
    (allInputs root host).1 = [0, 1, 2, 3, 4, 5, 6, 7].map (fun number =>
        (number, (input root number host).1)) ∧
      (∀ number, number < 8 →
        Reads root (692 + number) host (input root number host).1 (input root number host).2 ∧
        ∀ there : Host, AlikeBelow root [["export"],
            ["gpio" ++ toString (692 + number).toNat],
            ["gpio" ++ toString (692 + number).toNat, "value"]] host.files there.files →
          (input root number there).1 = (input root number host).1) ∧
      (allInputs root host).2.files =
        ([692, 693, 694, 695, 696, 697, 698, 699].filter fun pin =>
          !host.files.exists? (valuePath root pin)).foldl (afterExport root) host.files ∧
      ((∀ number, number < 8 → host.files.exists? (valuePath root (692 + number)) = true) →
        (allInputs root host).2.files = host.files) ∧
      (∀ place, (allInputs root host).2.files.node? place = host.files.node? place ∨
        ∃ directory, host.files.lead root = .ok (.existing directory .directory) ∧
          place = directory ++ ["export"]) ∧
      (∃ lines, (allInputs root host).2 = { host with
        files := (allInputs root host).2.files
        journal := host.journal ++ lines }) ∧
      ∀ number, 8 ≤ number → input root number host = (.error (.outOfRange number), host) := by
  have hnumbers : ∀ number ∈ ([0, 1, 2, 3, 4, 5, 6, 7] : List UInt32), number < 8 := by simp
  have hpins : ([0, 1, 2, 3, 4, 5, 6, 7] : List UInt32).map (692 + ·) =
      [692, 693, 694, 695, 696, 697, 698, 699] := by decide
  have hfiles := files_inputs hnumbers root host
  rw [missingPins, hpins] at hfiles
  unfold allInputs
  refine ⟨inputs_eq_map hnumbers root host, fun number hnumber => ⟨?_, fun there halike => ?_⟩,
    hfiles, fun hpresent => ?_, fun place => ?_, log_inputs root _ host,
    fun number hnumber => ?_⟩
  · rw [input_of_lt hnumber]
    exact reads_value root _ host
  · exact input_congr hnumber (.of_alikeBelow halike)
  · have hnone : ∀ pin ∈ [692, 693, 694, 695, 696, 697, 698, 699],
        ¬ (!host.files.exists? (valuePath root pin)) = true := by
      intro pin hpin
      rw [← hpins] at hpin
      obtain ⟨number, hnumber, rfl⟩ := List.mem_map.mp hpin
      simp [hpresent number (hnumbers number hnumber)]
    rw [hfiles, List.filter_eq_nil_iff.mpr hnone]
    rfl
  · rw [hfiles]
    exact node?_foldl_afterExport root _ host.files place
  · exact input_of_le hnumber root host

end Inputs

end BoardLink.DigitalInputs
