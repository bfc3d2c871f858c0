import Mathlib.Data.List.Nodup

/-!
# Entries with distinct keys

A list of entries in which no key comes twice is a map: what is found for a key is what the list
holds, in whatever order it holds it.
-/

namespace LinkWatch

variable {κ β : Type} [BEq κ] [LawfulBEq κ]

/-- Where no key comes twice, what is found for a key is what the entries hold. -/
theorem lookup_eq_some_iff_mem {entries : List (κ × β)} (h : (entries.map Prod.fst).Nodup)
    (key : κ) (value : β) : entries.lookup key = some value ↔ (key, value) ∈ entries := by
  induction entries with
  | nil => simp
  | cons entry entries ih =>
    obtain ⟨first, found⟩ := entry
    rw [List.map_cons, List.nodup_cons] at h
    rw [List.mem_cons, Prod.mk.injEq]
    by_cases hkey : key = first
    · -- the key is taken by the first entry
      subst hkey
      have hnot : (key, value) ∉ entries := fun hmem =>
        h.1 (List.mem_map.2 ⟨(key, value), hmem, rfl⟩)
      simp only [List.lookup_cons_self, Option.some.injEq, true_and, hnot, or_false, eq_comm]
    · rw [List.lookup_cons, beq_false_of_ne hkey]
      simp only [hkey, false_and, false_or]
      exact ih h.2

/-- What is found for a key stands among the entries, whatever their keys. -/
theorem mem_of_lookup {entries : List (κ × β)} {key : κ} {value : β}
    (h : entries.lookup key = some value) : (key, value) ∈ entries := by
  obtain ⟨before, after, rfl, -⟩ := List.lookup_eq_some_iff.1 h
  exact List.mem_append_right _ List.mem_cons_self

/-- A key that is not found is none of the keys. -/
theorem notMem_keys_of_lookup {entries : List (κ × β)} {key : κ}
    (h : entries.lookup key = none) : key ∉ entries.map Prod.fst := by
  intro hmem
  obtain ⟨entry, hentry, rfl⟩ := List.mem_map.1 hmem
  exact bne_iff_ne.1 (List.lookup_eq_none_iff.1 h entry hentry) rfl

/-- Entries with distinct keys are found in any order. -/
theorem lookup_perm {entries other : List (κ × β)} (h : entries.Perm other)
    (hdistinct : (entries.map Prod.fst).Nodup) (key : κ) :
    entries.lookup key = other.lookup key := by
  have hother := (h.map Prod.fst).nodup_iff.1 hdistinct
  ext value
  rw [lookup_eq_some_iff_mem hdistinct, lookup_eq_some_iff_mem hother, h.mem_iff]

/-- The entries of other keys have no part in what is found for a key. -/
theorem lookup_filter {keys : List κ} {key : κ} (hkey : key ∈ keys) (entries : List (κ × β)) :
    (entries.filter fun entry => entry.1 ∈ keys).lookup key = entries.lookup key := by
  induction entries with
  | nil => rfl
  | cons entry entries ih =>
    obtain ⟨name, found⟩ := entry
    rw [List.filter_cons, List.lookup_cons]
    by_cases heq : key = name
    · subst heq
      simp [hkey]
    · rw [beq_false_of_ne heq, ← ih]
      split
      · rw [List.lookup_cons, beq_false_of_ne heq]
      · rfl

end LinkWatch
