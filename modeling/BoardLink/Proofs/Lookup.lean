import Mathlib.Data.List.Nodup

-- Entries found by their keys. Writing an entry takes the place of those with the same key.
namespace BoardLink

variable {α β : Type} [DecidableEq α] [BEq α] [LawfulBEq α] {key target : α} {value : β}
  {entries : List (α × β)}

theorem lookup_filter_ne (h : target ≠ key) (entries : List (α × β)) :
    (entries.filter (·.1 ≠ target)).lookup key = entries.lookup key := by
  induction entries with
  | nil => rfl
  | cons entry entries ih =>
      obtain ⟨other, value⟩ := entry
      by_cases hother : other = target
      · subst hother
        have hkey : (key == other) = false := beq_false_of_ne h.symm
        rw [List.filter_cons_of_neg (by simp), List.lookup_cons, hkey]
        exact ih
      · rw [List.filter_cons_of_pos (by simpa using hother), List.lookup_cons, List.lookup_cons, ih]

theorem lookup_replace (target key : α) (value : β) (entries : List (α × β)) :
    ((target, value) :: entries.filter (·.1 ≠ target)).lookup key =
      if target = key then some value else entries.lookup key := by
  by_cases h : target = key
  · subst h
    rw [List.lookup_cons_self, if_pos rfl]
  · have hkey : (key == target) = false := beq_false_of_ne (Ne.symm h)
    rw [List.lookup_cons, hkey, if_neg h]
    exact lookup_filter_ne h entries

omit [DecidableEq α] in
-- Where no key comes twice, every entry is found.
theorem lookup_of_nodup (hnodup : (entries.map Prod.fst).Nodup) (hmem : (key, value) ∈ entries) :
    entries.lookup key = some value := by
  obtain ⟨before, after, rfl⟩ := List.append_of_mem hmem
  refine List.lookup_eq_some_iff.mpr ⟨before, after, rfl, fun entry hentry => ?_⟩
  rw [List.map_append, List.nodup_append] at hnodup
  have hne := hnodup.2.2 entry.1 (List.mem_map_of_mem hentry) key
    (List.mem_map_of_mem List.mem_cons_self)
  simpa using hne.symm

end BoardLink
