import BoardLink.Json.Form
import Mathlib.Data.List.Forall2
import Mathlib.Data.List.Nodup
import Mathlib.Data.List.Perm.Basic

-- The two shapes of a record: the list of what its fields hold, in order, and an object with the
-- fields by their keys, in any order and among others. Which values a field may hold is left open,
-- so that the same shapes tell both the values that are read and those that are refused.
namespace BoardLink.Json

-- The key of a field, and the values that may stand there.
abbrev Field := String × (JsonValue → Prop)

def keys (fields : List Field) : List String := fields.map Prod.fst

@[simp] theorem keys_nil : keys [] = [] := rfl

@[simp] theorem keys_cons (field : Field) (rest : List Field) :
    keys (field :: rest) = field.1 :: keys rest := rfl

-- A value holds all fields of a record, each with a value that may stand there.
inductive RecordOf (fields : List Field) : JsonValue → Prop where
  | list {items : List JsonValue}
      (each : List.Forall₂ (fun field item => field.2 item) fields items) :
      RecordOf fields (.list items)
  | object {given named others : List (String × JsonValue)}
      (together : given.Perm (named ++ others))
      (each : List.Forall₂ (fun field entry => entry.1 = field.1 ∧ field.2 entry.2) fields named)
      (unknown : ∀ entry ∈ others, entry.1 ∉ keys fields) : RecordOf fields (.object given)

-- A value holds at least one of the fields, with a value that may stand there.
inductive SomeOf (fields : List Field) : JsonValue → Prop where
  | list {items : List JsonValue} {field : Field} {item : JsonValue}
      (holds : (field, item) ∈ fields.zip items) (fits : field.2 item) : SomeOf fields (.list items)
  | object {given : List (String × JsonValue)} {field : Field} {item : JsonValue}
      (known : field ∈ fields) (holds : (field.1, item) ∈ given) (fits : field.2 item) :
      SomeOf fields (.object given)

variable {fields : List Field} {json item : JsonValue} {key : String}
  {given named others entries : List (String × JsonValue)}

section Entries

theorem field?_eq_some_iff :
    field? key given = some item ↔ given.filter (·.1 = key) = [(key, item)] := by
  unfold field?
  constructor
  · intro h
    split at h
    · rename_i found _ hfilter
      cases h
      have hmem : (found, item) ∈ given.filter (·.1 = key) := hfilter ▸ List.mem_cons_self
      obtain rfl : found = key := by simpa using (List.mem_filter.mp hmem).2
      exact hfilter
    · cases h
  · intro h
    rw [h]

-- An entry is found if no other has its key, wherever it stands.
theorem field?_of_perm (h : given.Perm ((key, item) :: entries))
    (hother : ∀ entry ∈ entries, entry.1 ≠ key) : field? key given = some item := by
  rw [field?_eq_some_iff]
  have hnone : entries.filter (·.1 = key) = [] := by
    rw [List.filter_eq_nil_iff]
    exact fun entry hentry => by simpa using hother entry hentry
  have hperm := h.filter (·.1 = key)
  rw [List.filter_cons_of_pos (by simp), hnone] at hperm
  exact List.perm_singleton.mp hperm

theorem exists_perm_of_field? (h : field? key given = some item) :
    ∃ entries, given.Perm ((key, item) :: entries) ∧
      (∀ entry ∈ entries, entry.1 ≠ key) ∧
      ∀ other, other ≠ key → field? other entries = field? other given := by
  rw [field?_eq_some_iff] at h
  refine ⟨given.filter fun entry => !decide (entry.1 = key), ?_, ?_, ?_⟩
  · have hperm := List.filter_append_perm
      (fun entry : String × JsonValue => decide (entry.1 = key)) given
    rw [h] at hperm
    exact hperm.symm
  · intro entry hentry
    simpa using (List.mem_filter.mp hentry).2
  · intro other hother
    unfold field?
    rw [List.filter_filter]
    have hsame : given.filter (fun entry => decide (entry.1 = other) && !decide (entry.1 = key)) =
        given.filter (·.1 = other) := by
      apply List.filter_congr
      intro entry _
      by_cases he : entry.1 = other
      · simp [he, hother]
      · simp [he]
    rw [hsame]

end Entries

section Reading

theorem mapM_eq_some_iff {α β : Type} {f : α → Option β} {xs : List α} {ys : List β} :
    xs.mapM f = some ys ↔ List.Forall₂ (fun x y => f x = some y) xs ys := by
  induction xs generalizing ys with
  | nil => simp [eq_comm]
  | cons x xs ih =>
      simp only [List.mapM_cons, Option.bind_eq_bind, Option.bind_eq_some_iff, ih,
        List.forall₂_cons_left_iff]
      constructor
      · rintro ⟨y, hy, tail, htail, ⟨⟩⟩
        exact ⟨y, tail, hy, htail, rfl⟩
      · rintro ⟨y, tail, hy, htail, rfl⟩
        exact ⟨y, hy, tail, htail, rfl⟩

-- The fields of an object are found one after the other. What is left of it has the later ones.
theorem exists_found (hnodup : (keys fields).Nodup) (hperm : given.Perm (named ++ others))
    (each : List.Forall₂ (fun field entry => entry.1 = field.1 ∧ field.2 entry.2) fields named)
    (unknown : ∀ entry ∈ others, entry.1 ∉ keys fields) :
    ∃ values, List.Forall₂ (fun key value => field? key given = some value) (keys fields) values ∧
      List.Forall₂ (fun field value => field.2 value) fields values := by
  induction each generalizing others with
  | nil => exact ⟨[], .nil, .nil⟩
  | @cons field entry fields named hentry each ih =>
      obtain ⟨hnotMem, hnodup⟩ := List.nodup_cons.mp hnodup
      obtain ⟨key, value⟩ := entry
      obtain ⟨rfl, hfits⟩ := hentry
      have hnamed : named.map Prod.fst = keys fields := by
        rw [← List.forall₂_eq_eq_eq, List.forall₂_map_left_iff, keys, List.forall₂_map_right_iff]
        exact each.flip.imp fun _ _ h => h.1
      have hother : ∀ entry ∈ named ++ others, entry.1 ≠ field.1 := by
        rintro entry hmem heq
        rcases List.mem_append.mp hmem with hmem | hmem
        · have hkey : entry.1 ∈ keys fields := hnamed ▸ List.mem_map_of_mem hmem
          exact hnotMem (heq ▸ hkey)
        · exact unknown entry hmem (heq ▸ List.mem_cons_self)
      have hrest : ∀ entry ∈ (field.1, value) :: others, entry.1 ∉ keys fields := by
        intro entry hmem
        rcases List.mem_cons.mp hmem with rfl | hmem
        · exact hnotMem
        · exact fun h => unknown entry hmem (List.mem_cons_of_mem _ h)
      obtain ⟨values, hfound, hvalues⟩ := ih hnodup (hperm.trans List.perm_middle.symm) hrest
      exact ⟨value :: values, .cons (field?_of_perm hperm hother) hfound, .cons hfits hvalues⟩

theorem exists_perm_of_found (hnodup : (keys fields).Nodup) {values : List JsonValue}
    (hfound : List.Forall₂ (fun key value => field? key given = some value) (keys fields) values)
    (hvalues : List.Forall₂ (fun field value => field.2 value) fields values) :
    ∃ named others, given.Perm (named ++ others) ∧
      List.Forall₂ (fun field entry => entry.1 = field.1 ∧ field.2 entry.2) fields named ∧
      ∀ entry ∈ others, entry.1 ∉ keys fields := by
  induction hvalues generalizing given with
  | nil => exact ⟨[], given, .refl _, .nil, fun _ _ => List.not_mem_nil⟩
  | @cons field value fields values hfits hvalues ih =>
      obtain ⟨hnotMem, hnodup⟩ := List.nodup_cons.mp hnodup
      obtain ⟨hfirst, hlater⟩ := List.forall₂_cons.mp hfound
      obtain ⟨entries, hperm, hother, hsame⟩ := exists_perm_of_field? hfirst
      have hne : ∀ key ∈ keys fields, key ≠ field.1 := fun key hkey heq => hnotMem (heq ▸ hkey)
      have hentries : List.Forall₂ (fun key value => field? key entries = some value)
          (keys fields) values :=
        ((List.forall₂_and_left _ _).mpr ⟨hne, hlater⟩).imp fun key _ h =>
          (hsame key h.1).trans h.2
      obtain ⟨named, others, hnamed, heach, hunknown⟩ := ih hnodup hentries
      refine ⟨(field.1, value) :: named, others, hperm.trans (hnamed.cons _),
        .cons ⟨rfl, hfits⟩ heach, ?_⟩
      intro entry hmem hkey
      rcases List.mem_cons.mp hkey with heq | hkey
      · exact hother entry (hnamed.symm.subset (List.mem_append_right _ hmem)) heq
      · exact hunknown entry hmem hkey

-- Reading the fields of a record accepts both shapes and no other value.
theorem recordOf_iff (hnodup : (keys fields).Nodup) : RecordOf fields json ↔
    ∃ values, fields? (keys fields) json = some values ∧
      List.Forall₂ (fun field value => field.2 value) fields values := by
  constructor
  · intro h
    cases h with
    | @list items each =>
        refine ⟨items, ?_, each⟩
        rw [fields?, if_pos (by rw [keys, List.length_map, each.length_eq])]
    | object together each unknown =>
        obtain ⟨values, hfound, hvalues⟩ := exists_found hnodup together each unknown
        exact ⟨values, mapM_eq_some_iff.mpr hfound, hvalues⟩
  · rintro ⟨values, hread, hvalues⟩
    unfold fields? at hread
    split at hread
    · split at hread
      · cases hread
        exact .list hvalues
      · cases hread
    · obtain ⟨named, others, hperm, heach, hunknown⟩ :=
        exists_perm_of_found hnodup (mapM_eq_some_iff.mp hread) hvalues
      exact .object hperm heach hunknown
    · cases hread

end Reading

section Refusing

variable {spoilt : List Field}

theorem exists_of_mem_right {α β : Type} {R : α → β → Prop} {xs : List α} {ys : List β} {y : β}
    (h : List.Forall₂ R xs ys) (hy : y ∈ ys) : ∃ x ∈ xs, R x y := by
  induction h with
  | nil => cases hy
  | cons head _ ih =>
      rcases List.mem_cons.mp hy with rfl | hy
      · exact ⟨_, List.mem_cons_self, head⟩
      · obtain ⟨x, hx, hr⟩ := ih hy
        exact ⟨x, List.mem_cons_of_mem _ hx, hr⟩

theorem forall₂_join {α β γ : Type} {R : α → β → Prop} {S : α → γ → Prop} {T : β → γ → Prop}
    {xs : List α} {ys : List β} {zs : List γ} (h : List.Forall₂ R xs ys)
    (ho : List.Forall₂ S xs zs) (hjoin : ∀ x y z, R x y → S x z → T y z) :
    List.Forall₂ T ys zs := by
  induction h generalizing zs with
  | nil =>
      cases ho
      exact .nil
  | cons head _ ih =>
      cases ho with
      | cons head' tail' => exact .cons (hjoin _ _ _ head head') (ih tail')

-- What may stand at a field of the one table may not stand at the same field of the other.
def Apart (fields spoilt : List Field) : Prop :=
  List.Forall₂ (fun field other => field.1 = other.1 ∧ ∀ item, field.2 item → ¬ other.2 item)
    fields spoilt

theorem Apart.keys_eq (h : Apart fields spoilt) : keys fields = keys spoilt := by
  rw [← List.forall₂_eq_eq_eq, keys, keys, List.forall₂_map_left_iff, List.forall₂_map_right_iff]
  exact h.imp fun _ _ hfield => hfield.1

-- A record has each of its keys once, so no second value hides behind one that may stand there.
theorem RecordOf.not_someOf (h : RecordOf fields json) (hnodup : (keys fields).Nodup)
    (hapart : Apart fields spoilt) : ¬ SomeOf spoilt json := by
  intro hspoilt
  cases hspoilt with
  | list holds fits =>
      cases h with
      | list each =>
          have hnot := forall₂_join hapart each fun _ other item hfield hitem => hfield.2 item hitem
          exact (List.forall₂_iff_zip.mp hnot).2 holds fits
  | @object _ field item known holds fits =>
      cases h with
      | object together each unknown =>
          rcases List.mem_append.mp (together.subset holds) with hmem | hmem
          · have hnot := forall₂_join hapart each fun field other entry hfield hentry =>
              (⟨hentry.1.trans hfield.1, hfield.2 _ hentry.2⟩ :
                entry.1 = other.1 ∧ ¬ other.2 entry.2)
            obtain ⟨other, hother, hkey, hitem⟩ := exists_of_mem_right hnot hmem
            rw [hapart.keys_eq] at hnodup
            obtain rfl := List.inj_on_of_nodup_map hnodup known hother hkey
            exact hitem fits
          · refine unknown _ hmem ?_
            rw [hapart.keys_eq]
            exact List.mem_map_of_mem known

end Refusing

end BoardLink.Json
